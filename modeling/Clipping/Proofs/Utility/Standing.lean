import Clipping.Proofs.Utility.Spliced

/-! Which values stand in tokens: those of the declarations, and the parts of them that a rule takes.
Only box values and values for two axes are taken apart into words; the order of an item is the one
value that stands in its token as it is written. -/
namespace Clipping.Utility

open Output

variable {d : Declarations} {property : String}

/-! Values that are taken apart. -/

/-- The words of a value, if there are no more than a rule has use for. -/
def wordsUpTo (limit : Nat) (d : Declarations) (property : String) : List String :=
  match d.get? property with
  | some v => if (split v).length ≤ limit then split v else []
  | .none => []

/-- The words of a box value, where no side is declared. -/
def boxParts (d : Declarations) (shorthand : String) : List String :=
  if sides.any fun side => isSet (d.get? (shorthand ++ "-" ++ side)) then [] else wordsUpTo 4 d shorthand

/-- The words that stand in tokens without the words beside them. -/
def takenApart (d : Declarations) : List String :=
  boxParts d "padding" ++ boxParts d "margin" ++ wordsUpTo 2 d "gap" ++ wordsUpTo 2 d "border-spacing"

/-- A list of fonts with single quotes. -/
def requoted (v : String) : String :=
  String.ofList (v.toList.map fun c => if c = '\x22' then '\x27' else c)

/-- The values that stand in tokens, escaped. -/
inductive Stands (d : Declarations) : String → Prop where
  | whole {p v : String} (found : d.get? p = some v) : Stands d v
  | requoted {p v : String} (found : d.get? p = some v) : Stands d (requoted v)
  | width {p v : String} {parts : BorderParts} (found : d.get? p = some v)
      (read : borderParts? v.toList = some parts) : Stands d parts.width
  | color {p v : String} {parts : BorderParts} (found : d.get? p = some v)
      (read : borderParts? v.toList = some parts) : Stands d parts.color
  | half {p v word : String} (found : d.get? p = some v) (halves : split v = [word, word]) : Stands d word
  | part {word : String} (taken : word ∈ takenApart d) : Stands d word

theorem mem_wordsUpTo {limit : Nat} {v word : String} (found : d.get? property = some v)
    (few : (split v).length ≤ limit) (member : word ∈ split v) : word ∈ wordsUpTo limit d property := by
  simpa [wordsUpTo, found, few] using member

theorem exists_of_mem_wordsUpTo {limit : Nat} {word : String} (member : word ∈ wordsUpTo limit d property) :
    ∃ v, d.get? property = some v ∧ (split v).length ≤ limit ∧ word ∈ split v := by
  unfold wordsUpTo at member
  split at member
  · next v found =>
    split at member
    · next few => exact ⟨v, found, few, member⟩
    · cases member
  · cases member

theorem contains_of_mem_wordsUpTo {limit : Nat} {word : String} (member : word ∈ wordsUpTo limit d property) :
    d.contains property = true := by
  obtain ⟨v, found, -⟩ := exists_of_mem_wordsUpTo member
  exact Assoc.contains_of_get? found

theorem boxParts_subset {shorthand : String} : boxParts d shorthand ⊆ wordsUpTo 4 d shorthand := by
  unfold boxParts
  split
  · exact List.nil_subset _
  · exact List.Subset.refl _

/-- The sides of a box are its words. -/
theorem mem_split_of_expandBox {v a b c e : String} (found : expandBox? v = some (a, b, c, e)) :
    (split v).length ≤ 4 ∧ ∀ word, word ∈ split v ↔ word ∈ [a, b, c, e] := by
  unfold expandBox? at found
  split at found
  · next words =>
    cases found
    simp [words]
  · next words =>
    cases found
    simp [words]
    grind
  · next words =>
    cases found
    simp [words]
    grind
  · next words =>
    cases found
    simp [words]
  · cases found

/-- Any other value has more words than a box has sides, or none. -/
theorem split_of_expandBox_none {v : String} (unread : expandBox? v = .none) :
    split v = [] ∨ 4 < (split v).length := by
  unfold expandBox? at unread
  split at unread
  · cases unread
  · cases unread
  · cases unread
  · cases unread
  · next one two three four =>
    rcases words : split v with _ | ⟨a, _ | ⟨b, _ | ⟨c, _ | ⟨e, _ | ⟨f, rest⟩⟩⟩⟩⟩
    · exact .inl rfl
    · exact absurd words (one a)
    · exact absurd words (two a b)
    · exact absurd words (three a b c)
    · exact absurd words (four a b c e)
    · exact .inr (by simp)

/-! Readings. -/

variable {stem : String}

theorem spliced_declared {f : String → Output}
    (each : ∀ v, d.get? property = some v → (f v).IsSpliced (Stands d)) :
    (declared d property f).IsSpliced (Stands d) := by
  unfold declared
  split
  · next v found => exact each v found
  · exact .none

theorem spliced_keyword {stands : String → Prop} {table : Keywords} (names : table.IsPlain) {literal : String}
    (spliced : Spliced stands literal) (value : String) :
    (keyword table literal property value).IsSpliced stands := by
  unfold keyword
  split
  · next token found =>
    split
    · exact .unmapped spliced property value
    · exact .plain (names.lookup found)
  · exact .unmapped spliced property value

theorem spliced_mapped {table : Keywords} (names : table.IsPlain) (own : IsPlain property) :
    (mapped d property table).IsSpliced (Stands d) :=
  spliced_declared fun v found => spliced_keyword names (.declaration own (.whole found)) v

theorem spliced_mappedAfter {table : Keywords} (own : IsPlain stem) (names : table.IsPlain) :
    (mappedAfter stem d property table).IsSpliced (Stands d) :=
  spliced_declared fun v found => spliced_keyword names (.value own (.whole found)) v

theorem spliced_verbatim (own : IsPlain property) : (verbatim d property).IsSpliced (Stands d) :=
  spliced_declared fun _ found => .declaration own (.whole found)

theorem spliced_colored (own : IsPlain stem) : (colored d stem property).IsSpliced (Stands d) :=
  spliced_declared fun _ found => .color own property (.whole found)

theorem spliced_measured {names : Keywords} (own : IsPlain stem) (plain : names.IsPlain) :
    (measured d stem property names).IsSpliced (Stands d) := by
  refine spliced_declared fun v found => ?_
  split
  · next name listed => exact .plain ((own.append (by decide)).append (plain.lookup listed))
  · exact .length own property (.whole found)

theorem spliced_axes {both first second : String} (own : IsPlain property) (whole : IsPlain both)
    (one : IsPlain first) (other : IsPlain second)
    (taken : ∀ word ∈ wordsUpTo 2 d property, word ∈ takenApart d) :
    (axes d both first second property).IsSpliced (Stands d) := by
  refine spliced_declared fun v found => ?_
  have stands {word : String} (few : (split v).length ≤ 2) (member : word ∈ split v) : Stands d word :=
    .part (taken word (mem_wordsUpTo found few member))
  split
  · next a words => exact .length whole property (stands (by simp [words]) (by simp [words]))
  · next a b words =>
    have start : Stands d a := stands (by simp [words]) (by simp [words])
    split
    · exact .length whole property start
    · exact .append (.length one property start)
        (.length other property (stands (by simp [words]) (by simp [words])))
  · exact .declaration own (.whole found)

theorem spliced_overflow (own : IsPlain property) : (overflow d property).IsSpliced (Stands d) := by
  have names : ∀ v ∈ overflowValues, IsPlain v := by decide
  refine spliced_declared fun v found => ?_
  split
  · next listed =>
    exact .plain ((own.append (by decide)).append (names v (List.contains_iff_mem.mp listed)))
  · exact .unmapped (.value own (.whole found)) property v

/-! Counts of tracks. -/

theorem isDecimal_of_equalTracks {s count : List Char} (found : equalTracks? s = some count) :
    ∀ c ∈ count, Text.isDecimal c = true := by
  simp only [equalTracks?, Option.bind_eq_bind, Option.bind_eq_some_iff] at found
  obtain ⟨first, -, second, -, third, -, fourth, -, counted⟩ := found
  split at counted
  · rw [← Option.some.inj counted]
    exact fun _ member => List.mem_takeWhile_imp member
  · cases counted

theorem isDecimal_of_spanCount {s count : List Char} (found : spanCount? s = some count) :
    ∀ c ∈ count, Text.isDecimal c = true := by
  simp only [spanCount?, Option.bind_eq_bind, Option.bind_eq_some_iff] at found
  obtain ⟨first, -, counted⟩ := found
  split at counted
  · rw [← Option.some.inj counted]
    exact fun _ member => List.mem_takeWhile_imp member
  · cases counted

theorem isPlain_of_isDecimal {s : List Char} (digits : ∀ c ∈ s, Text.isDecimal c = true) :
    IsPlain (String.ofList s) :=
  isPlain_ofList.mpr fun c member => Text.isPlain_of_isDecimal (digits c member)

theorem spliced_template (own : IsPlain stem) : (template d stem property).IsSpliced (Stands d) := by
  refine spliced_declared fun v found => ?_
  split
  · next count read => exact .plain ((own.append (by decide)).append (isPlain_of_isDecimal (isDecimal_of_equalTracks read)))
  · exact .unmapped (.value own (.whole found)) property v

theorem spliced_span (own : IsPlain stem) : (span d stem property).IsSpliced (Stands d) := by
  refine spliced_declared fun v found => ?_
  split
  · exact .plain (own.append (by decide))
  · split
    · next count read => exact .plain ((own.append (by decide)).append (isPlain_of_isDecimal (isDecimal_of_spanCount read)))
    · exact .unmapped (.value own (.whole found)) property v

theorem spliced_place {table : Keywords} (own : IsPlain property) (names : table.IsPlain) :
    (place d property table).IsSpliced (Stands d) := by
  refine spliced_declared fun v found => ?_
  refine spliced_keyword names (.declaration own ?_) _
  split
  · next a b halves =>
    split
    · next same => exact .half found (same ▸ halves)
    · exact .whole found
  · exact .whole found

/-! Flexible boxes. -/

theorem forall_of_mapM {f : String → Option String} {holds : String → Prop}
    (each : ∀ word token, f word = some token → holds token) {words tokens : List String}
    (found : words.mapM f = some tokens) : ∀ t ∈ tokens, holds t := by
  induction words generalizing tokens with
  | nil =>
    simp only [List.mapM_nil, Option.pure_def, Option.some.injEq] at found
    simp [← found]
  | cons word rest ih =>
    simp only [List.mapM_cons, Option.bind_eq_bind, Option.bind_eq_some_iff, Option.pure_def,
      Option.some.injEq] at found
    obtain ⟨token, read, later, others, rfl⟩ := found
    exact List.forall_mem_cons.mpr ⟨each word token read, ih others⟩

theorem spliced_flow : (flow d).IsSpliced (Stands d) := by
  have names : ∀ entry ∈ directionNames ++ wrapNames, IsPlain entry.2 := by decide
  refine spliced_declared fun v found => ?_
  split
  · next tokens read =>
    refine .join fun o member => ?_
    obtain ⟨t, own, rfl⟩ := List.mem_map.mp member
    exact .plain (forall_of_mapM (fun word token named => names (word, token) (mem_of_flowName named)) read t own)
  · exact .declaration (by decide) (.whole found)

theorem spliced_grow : (grow d).IsSpliced (Stands d) := by
  refine spliced_declared fun v found => ?_
  split
  · exact .declaration (by decide) (.whole found)
  · next x _ =>
    split
    · exact .none
    · split
      · exact .plain (by decide)
      · exact .plain (.append (.append (by decide) x.isPlain_plain) (by decide))

theorem spliced_shrink : (shrink d).IsSpliced (Stands d) := by
  refine spliced_declared fun v found => ?_
  split
  · exact .declaration (by decide) (.whole found)
  · next x _ =>
    split
    · exact .none
    · split
      · exact .plain (by decide)
      · exact .plain (.append (.append (by decide) x.isPlain_plain) (by decide))

/-! Boxes and borders. -/

section

variable {stands : String → Prop} {top right bottom left : Option String}

/-- The key of a side is made so, if there is one. -/
def IsSplicedKey (stands : String → Prop) (key : Option String) : Prop := ∀ k, key = some k → Spliced stands k

theorem spliced_sideKey {v : String} (own : stands v) : IsSplicedKey stands (sideKey? v) := by
  intro key found
  unfold sideKey? at found
  simp only at found
  split at found
  · cases found
  · exact Option.some.inj found ▸ spliced_lengthKey own

theorem spliced_consolidate (own : IsPlain stem) (first : IsSplicedKey stands top)
    (second : IsSplicedKey stands right) (third : IsSplicedKey stands bottom)
    (fourth : IsSplicedKey stands left) :
    (join ((consolidate stem top right bottom left).map .token)).IsSpliced stands := by
  have letters : ∀ letter ∈ sideLetters, IsPlain letter := by decide
  have keys : ∀ key ∈ [top, right, bottom, left], IsSplicedKey stands key := by
    simp [first, second, third, fourth]
  refine .join fun o member => ?_
  obtain ⟨t, listed, rfl⟩ := List.mem_map.mp member
  obtain ⟨letter, named, k, side, -, rfl⟩ := mem_consolidate listed
  exact .token (.append (.plain ((own.append (letters letter named)).append (by decide))) (keys _ side k rfl))

end

theorem spliced_boxRule {shorthand : String} (whole : IsPlain shorthand) (own : IsPlain stem)
    (taken : ∀ word ∈ boxParts d shorthand, word ∈ takenApart d) :
    ((boxRule shorthand stem).emit d).IsSpliced (Stands d) := by
  have side (p : String) : IsSplicedKey (Stands d) ((d.get? p).bind sideKey?) := by
    intro k found
    obtain ⟨v, declared, key⟩ := Option.bind_eq_some_iff.mp found
    exact spliced_sideKey (.whole declared) k key
  simp only [boxRule]
  split
  · refine .append (.join fun o member => ?_) (spliced_consolidate own (side _) (side _) (side _) (side _))
    obtain ⟨name, -, rfl⟩ := List.mem_map.mp member
    exact spliced_declared fun v _ => .keyNote _ v
  · next undeclared =>
    refine spliced_declared fun v found => ?_
    split
    · exact .declaration whole (.whole found)
    · next words =>
      obtain ⟨few, same⟩ := mem_split_of_expandBox words
      have part {word : String} (member : word ∈ split v) : IsSplicedKey (Stands d) (sideKey? word) := by
        refine spliced_sideKey (.part (taken word ?_))
        rw [boxParts, if_neg undeclared]
        exact mem_wordsUpTo found few member
      split
      · refine .append (.join fun o member => ?_) (spliced_consolidate own
          (part ((same _).mpr (by simp))) (part ((same _).mpr (by simp)))
          (part ((same _).mpr (by simp))) (part ((same _).mpr (by simp))))
        obtain ⟨word, -, rfl⟩ := List.mem_map.mp member
        exact .keyNote shorthand word
      · exact .declaration whole (.whole found)

theorem spliced_borderWidth {stands : String → Prop} (own : IsPlain stem) {width : String}
    (stated : stands width) : (borderWidth stem property width).IsSpliced stands := by
  have suffixes : widthSuffixes.IsPlain := by decide
  unfold borderWidth
  split
  · next suffix found => exact .plain (own.append (suffixes.lookup found))
  · exact .unmapped (.value own stated) property width

theorem isPlain_of_borderStyles {style : String} (listed : borderStyles.contains style = true) :
    IsPlain style ∧ IsPlain (Literal.escaped style) :=
  (by decide : ∀ style ∈ borderStyles, IsPlain style ∧ IsPlain (Literal.escaped style)) style
    (List.contains_iff_mem.mp listed)

theorem spliced_borderStyle {stands : String → Prop} {style : String} (own : IsPlain property)
    (listed : borderStyles.contains style = true) (value : String) :
    (borderStyle stem property style value).IsSpliced stands := by
  obtain ⟨named, escaped⟩ := isPlain_of_borderStyles listed
  unfold borderStyle
  split
  · exact .none
  · split
    · exact .plain (.append (by decide) named)
    · refine .unmapped (.plain ?_) property value
      exact .append (.append (.append (.append (by decide) (own.append (by decide))) (by decide)) escaped)
        (by decide)

theorem spliced_borderShorthand (plain : IsPlain stem) (own : IsPlain property) {v : String}
    (found : d.get? property = some v) : (borderShorthand stem property v).IsSpliced (Stands d) := by
  unfold borderShorthand
  split
  · exact .unmapped (.plain plain) property v
  · next parts read =>
    split
    · exact .unmapped (.plain plain) property v
    · next listed =>
      split
      · exact .plain (plain.append (by decide))
      · exact .append (.append (spliced_borderWidth plain (.width found read))
          (spliced_borderStyle own (by simpa using listed) v)) (.color plain property (.color found read))

/-! Readings of texts, effects and tables. -/

theorem spliced_fontFamily : (fontFamily d).IsSpliced (Stands d) :=
  spliced_declared fun v found => .unmapped (.value (by decide) (.requoted found)) _ v

theorem spliced_lineHeight : (lineHeight d).IsSpliced (Stands d) := by
  have names : ∀ entry ∈ lineHeightNames, IsPlain entry.2 := by decide
  refine spliced_declared fun v found => ?_
  split
  · next token named =>
    obtain ⟨factor, listed⟩ := mem_of_lineHeightName named
    exact .plain (names _ listed)
  · exact .unmapped (.value (by decide) (.whole found)) _ v

theorem spliced_decoration : (decoration d).IsSpliced (Stands d) := by
  refine spliced_declared fun v found => ?_
  simp only
  split
  · exact .plain (by decide)
  · split
    · exact .plain (by decide)
    · split
      · exact .plain (by decide)
      · split
        · exact .plain (by decide)
        · exact .unmapped (.value (by decide) (.whole found)) _ v

theorem spliced_opacityToken {stands : String → Prop} {v token : String} (own : stands v)
    (found : opacityToken? v = some token) : Spliced stands token := by
  rcases opacityToken?_cases found with rfl | ⟨part, -, rfl⟩
  · exact .value (by decide) own
  · exact .plain (.append (by decide) (isPlain_toString part))

theorem spliced_opacityRule : (opacityRule.emit d).IsSpliced (Stands d) := by
  refine spliced_declared fun v found => ?_
  split
  · exact .none
  · next token named =>
    split
    · exact .unmapped (spliced_opacityToken (.whole found) named) _ v
    · exact .token (spliced_opacityToken (.whole found) named)

theorem spliced_boxShadow : (boxShadow d).IsSpliced (Stands d) := by
  refine spliced_declared fun v found => ?_
  split
  · next entry token named =>
    have names : shadowNames.IsPlain := by decide
    exact .plain (names _ (List.mem_of_find?_eq_some named))
  · exact .unmapped (.value (by decide) (.whole found)) _ v

theorem spliced_stacking : (stacking d).IsSpliced (Stands d) := by
  refine spliced_declared fun v found => ?_
  split
  · exact .none
  · exact spliced_keyword (by decide) (.value (by decide) (.whole found)) v

theorem spliced_listStyle : (listStyle d).IsSpliced (Stands d) := by
  refine spliced_declared fun v found => ?_
  simp only
  split
  · exact .plain (by decide)
  · split
    · exact .plain (by decide)
    · split
      · exact .plain (by decide)
      · exact .declaration (by decide) (.whole found)

end Clipping.Utility

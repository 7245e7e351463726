import Clipping.Proofs.Utility.Standing

/-! Notes and the tokens that they explain. A note is of a literal that a token is, or ends in where
the literal is the key of a length. The other way round, brackets in a token are those of a literal
with a note, but for a few tokens that have brackets of their own. -/
namespace Clipping.Utility

open Output

/-- No square bracket opens in the text. -/
def IsBare (s : String) : Prop := '[' ∉ s.toList

instance (s : String) : Decidable (IsBare s) := inferInstanceAs (Decidable (_ ∉ _))

@[simp] theorem isBare_append {s t : String} : IsBare (s ++ t) ↔ IsBare s ∧ IsBare t := by
  simp [IsBare]

theorem IsBare.behind {stem key : String} (plain : IsBare stem) (bare : IsBare key) :
    IsBare (stem ++ "-" ++ key) :=
  isBare_append.mpr ⟨isBare_append.mpr ⟨plain, by decide⟩, bare⟩

theorem isBare_of_isDecimal {s : List Char} (digits : ∀ c ∈ s, Text.isDecimal c = true) :
    IsBare (String.ofList s) := by
  rw [IsBare, String.toList_ofList]
  exact fun member => absurd (digits _ member) (by decide)

/-- No token of the table has a bracket. -/
def Keywords.IsBare (table : Keywords) : Prop := ∀ entry ∈ table, Utility.IsBare entry.2

instance (table : Keywords) : Decidable table.IsBare := inferInstanceAs (Decidable (∀ entry ∈ table, _))

theorem Keywords.IsBare.lookup {table : Keywords} (bare : table.IsBare) {value token : String}
    (found : table.lookup value = some token) : Utility.IsBare token :=
  bare (value, token) (mem_of_lookup found)

/-- A key without a note has no bracket. -/
theorem isLiteralKey_or_isBare (v : String) : isLiteralKey (lengthKey v) = true ∨ IsBare (lengthKey v) := by
  have names : ∀ key ∈ ["0", "px", "0.5", "1.5", "2.5", "3.5"], IsBare key := by decide
  unfold lengthKey
  cases found : Scale.key? v with
  | none => exact .inl (by simp [isLiteralKey, Literal.bracketed])
  | some key =>
    obtain ⟨x, -, named⟩ := Scale.key?_eq_some_iff.mp found
    rcases Scale.key_standard_cases named with name | ⟨n, rfl⟩ | rfl
    · exact .inr (names key name)
    · rw [Option.getD_some, IsBare, toList_toString]
      exact .inr fun member => absurd (isDigit_of_mem_toDigits member) (by decide)
    · exact .inl (by simp [isLiteralKey])

/-- The properties of lengths, whose tokens are keys after a stem. -/
def spaced : List String :=
  sides ++ ["flex-basis", "gap", "row-gap", "column-gap", "border-spacing"] ++ sizingRule.properties ++
    (boxRule "padding" "p").properties ++ (boxRule "margin" "m").properties

/-- The note is of the key of a length, which is a literal. -/
def Fallback.IsKey (f : Fallback) : Prop :=
  f.property ∈ spaced ∧ f.token = lengthKey f.value ∧ isLiteralKey f.token = true

/-- The token is what was noted, or ends in it where that is a key. -/
def Fallback.Explains (f : Fallback) (t : String) : Prop :=
  f.token.toList <:+ t.toList ∧ (t = f.token ∨ f.IsKey)

/-- The tokens that have brackets and no note. -/
inductive Direct (d : Declarations) : String → Prop where
  | grow {v : String} {x : Finite} (found : d.get? "flex-grow" = some v) (read : factor? v = some x) :
    Direct d ("grow-[" ++ x.plain ++ "]")
  | shrink {v : String} {x : Finite} (found : d.get? "flex-shrink" = some v) (read : factor? v = some x) :
    Direct d ("shrink-[" ++ x.plain ++ "]")
  | order {v : String} (found : d.get? "order" = some v) : Direct d ("order-[" ++ v ++ "]")
  | smallCaps (found : d.get? "font-variant" = some "small-caps") : Direct d "[font-variant:small-caps]"

namespace Output

/-- Every note is of a declared property and explains a token, and every bracket is explained or
direct. -/
structure Explained (d : Declarations) (o : Output) : Prop where
  sound : ∀ f ∈ o.fallbacks, d.contains f.property = true ∧ ∃ t ∈ o.emitted, f.Explains t
  complete : ∀ t ∈ o.emitted, '[' ∈ t.toList → (∃ f ∈ o.fallbacks, f.Explains t) ∨ Direct d t

namespace Explained

variable {d : Declarations}

theorem none : Explained d Output.none := ⟨nofun, nofun⟩

theorem append {a b : Output} (first : a.Explained d) (second : b.Explained d) : (a ++ b).Explained d := by
  constructor
  · intro f member
    rcases List.mem_append.mp member with own | own
    · obtain ⟨declared, t, emitted, explains⟩ := first.sound f own
      exact ⟨declared, t, List.mem_append_left _ emitted, explains⟩
    · obtain ⟨declared, t, emitted, explains⟩ := second.sound f own
      exact ⟨declared, t, List.mem_append_right _ emitted, explains⟩
  · intro t member bracket
    rcases List.mem_append.mp member with own | own
    · exact (first.complete t own bracket).imp_left fun ⟨f, noted, explains⟩ =>
        ⟨f, List.mem_append_left _ noted, explains⟩
    · exact (second.complete t own bracket).imp_left fun ⟨f, noted, explains⟩ =>
        ⟨f, List.mem_append_right _ noted, explains⟩

theorem join {outputs : List Output} (each : ∀ o ∈ outputs, o.Explained d) : (join outputs).Explained d := by
  induction outputs with
  | nil => exact none
  | cons o rest ih =>
    obtain ⟨first, others⟩ := List.forall_mem_cons.mp each
    exact first.append (ih others)

/-- A list written out, one part for each output. -/
theorem row {outputs : List Output} (each : outputs.Forall (Explained d)) : (Output.join outputs).Explained d :=
  join (List.forall_iff_forall_mem.mp each)

theorem token {t : String} (explained : '[' ∈ t.toList → Direct d t) : (token t).Explained d := by
  refine ⟨nofun, fun s member bracket => .inr ?_⟩
  unfold Output.token at member
  split at member
  · cases member
  · obtain rfl := List.mem_singleton.mp member
    exact explained bracket

theorem bare {t : String} (bare : IsBare t) : (Output.token t).Explained d :=
  token fun bracket => absurd bracket bare

theorem direct {t : String} (direct : Direct d t) : (Output.token t).Explained d := token fun _ => direct

section

variable {property w : String} (found : d.get? property = some w)

include found

theorem fallback {t : String} (written : t ≠ "") (value : String) (reason : Reason) :
    (fallback t property value reason).Explained d := by
  have emitted : (Output.fallback t property value reason).emitted = [t] := by
    simp [Output.fallback, written]
  have explains : Fallback.Explains ⟨property, value, t, reason⟩ t := ⟨List.suffix_rfl, .inl rfl⟩
  constructor
  · intro f member
    obtain rfl := List.mem_singleton.mp member
    exact ⟨Assoc.contains_of_get? found, t, by simp [emitted], explains⟩
  · intro s member _
    obtain rfl := List.mem_singleton.mp (emitted ▸ member)
    exact .inl ⟨_, List.mem_singleton_self _, explains⟩

theorem unmapped {t : String} (written : t ≠ "") (value : String) : (unmapped t property value).Explained d :=
  fallback found written value .unmappableValue

theorem literal (stem v value : String) : (Output.unmapped (Literal.value stem v) property value).Explained d :=
  unmapped found (by simp [Literal.value]) value

theorem declaration (value : String) : (declaration property value).Explained d :=
  unmapped found (by simp [Literal.declaration]) value

theorem color {stem : String} (plain : IsBare stem) (value : String) : (color stem property value).Explained d := by
  have names : ∀ swatch ∈ palette, IsBare swatch.name := by decide +kernel
  unfold Output.color Color.token
  split
  · exact fallback found (by simp [Literal.value]) value .unmatchedColor
  · next hex _ =>
    split
    · next swatch named =>
      exact bare (plain.behind (names swatch (List.mem_of_find?_eq_some named)))
    · exact fallback found (by simp) value .unmatchedColor

end

/-- The key of a length stands in the token, behind a stem without brackets. -/
def Carries (v t : String) : Prop := ∃ stem, IsBare stem ∧ t = stem ++ "-" ++ lengthKey v

theorem explains_of_carries {property v t : String} (listed : property ∈ spaced)
    (literal : isLiteralKey (lengthKey v) = true) (carries : Carries v t) (reason : Reason) :
    Fallback.Explains ⟨property, v, lengthKey v, reason⟩ t := by
  obtain ⟨stem, -, rfl⟩ := carries
  refine ⟨?_, .inr ⟨listed, rfl, literal⟩⟩
  rw [String.toList_append]
  exact List.suffix_append _ _

/-- Keys of lengths, with the notes for those among them that are literals. -/
theorem keyed {o : Output} (noted : String → String → Prop)
    (known : ∀ p v, noted p v → d.contains p = true ∧ p ∈ spaced)
    (notes : ∀ f, f ∈ o.fallbacks ↔ ∃ p v, noted p v ∧ f ∈ (keyNote p v).fallbacks)
    (carried : ∀ p v, noted p v → isLiteralKey (lengthKey v) = true → ∃ t ∈ o.emitted, Carries v t)
    (made : ∀ t ∈ o.emitted, ∃ p v, noted p v ∧ Carries v t) : o.Explained d := by
  constructor
  · intro f member
    obtain ⟨p, v, own, note⟩ := (notes f).mp member
    simp only [keyNote, List.mem_ite_nil_right, List.mem_singleton] at note
    obtain ⟨literal, rfl⟩ := note
    obtain ⟨declared, listed⟩ := known p v own
    obtain ⟨t, emitted, carries⟩ := carried p v own literal
    exact ⟨declared, t, emitted, explains_of_carries listed literal carries _⟩
  · intro t member bracket
    obtain ⟨p, v, own, carries⟩ := made t member
    have literal : isLiteralKey (lengthKey v) = true := by
      obtain ⟨stem, plain, rfl⟩ := carries
      refine (isLiteralKey_or_isBare v).resolve_right fun bare => ?_
      exact absurd bracket (plain.behind bare)
    have note : (⟨p, v, lengthKey v, .unmappableValue⟩ : Fallback) ∈ (keyNote p v).fallbacks := by
      simp [keyNote, literal]
    exact .inl ⟨_, (notes _).mpr ⟨p, v, own, note⟩, explains_of_carries (known p v own).2 literal carries _⟩

theorem length {property w stem : String} (found : d.get? property = some w) (listed : property ∈ spaced)
    (plain : IsBare stem) (v : String) : (length stem property v).Explained d := by
  have emitted : (Output.length stem property v).emitted = [stem ++ "-" ++ lengthKey v] := by
    simp [Output.length, Output.token, keyNote]
  have notes : (Output.length stem property v).fallbacks = (keyNote property v).fallbacks := rfl
  have carries : Carries v (stem ++ "-" ++ lengthKey v) := ⟨stem, plain, rfl⟩
  refine keyed (fun p value => p = property ∧ value = v) ?_ ?_ ?_ ?_
  · rintro p value ⟨rfl, rfl⟩
    exact ⟨Assoc.contains_of_get? found, listed⟩
  · simp [notes]
  · rintro p value ⟨rfl, rfl⟩ -
    exact ⟨_, emitted ▸ List.mem_singleton_self _, carries⟩
  · intro t member
    obtain rfl := List.mem_singleton.mp (emitted ▸ member)
    exact ⟨property, v, ⟨rfl, rfl⟩, carries⟩

end Explained

end Output

/-! Readings. -/

variable {d : Declarations} {property stem : String}

theorem explained_declared {f : String → Output}
    (each : ∀ v, d.get? property = some v → (f v).Explained d) : (declared d property f).Explained d := by
  unfold declared
  split
  · next v found => exact each v found
  · exact .none

theorem explained_keyword {w literal : String} (found : d.get? property = some w) {table : Keywords}
    (bare : table.IsBare) (written : literal ≠ "") (value : String) :
    (keyword table literal property value).Explained d := by
  unfold keyword
  split
  · next token named =>
    split
    · exact .unmapped found written value
    · exact .bare (bare.lookup named)
  · exact .unmapped found written value

theorem explained_mapped {table : Keywords} (bare : table.IsBare) : (mapped d property table).Explained d :=
  explained_declared fun v found => explained_keyword found bare (by simp [Literal.declaration]) v

theorem explained_mappedAfter {table : Keywords} (bare : table.IsBare) :
    (mappedAfter stem d property table).Explained d :=
  explained_declared fun v found => explained_keyword found bare (by simp [Literal.value]) v

theorem explained_verbatim : (verbatim d property).Explained d :=
  explained_declared fun v found => .declaration found v

theorem explained_colored (plain : IsBare stem) : (colored d stem property).Explained d :=
  explained_declared fun v found => .color found plain v

theorem explained_measured {names : Keywords} (plain : IsBare stem) (bare : names.IsBare)
    (listed : property ∈ spaced) : (measured d stem property names).Explained d := by
  refine explained_declared fun v found => ?_
  split
  · next name named =>
    exact .bare (plain.behind (bare.lookup named))
  · exact .length found listed plain v

theorem explained_axes {both first second : String} (whole : IsBare both) (one : IsBare first)
    (other : IsBare second) (listed : property ∈ spaced) : (axes d both first second property).Explained d := by
  refine explained_declared fun v found => ?_
  split
  · next a _ => exact .length found listed whole a
  · next a b _ =>
    split
    · exact .length found listed whole a
    · exact .append (.length found listed one a) (.length found listed other b)
  · exact .declaration found v

theorem explained_overflow (plain : IsBare property) : (overflow d property).Explained d := by
  have names : ∀ v ∈ overflowValues, IsBare v := by decide
  refine explained_declared fun v found => ?_
  split
  · next listed =>
    exact .bare (plain.behind (names v (List.contains_iff_mem.mp listed)))
  · exact .literal found property v v

theorem explained_template (plain : IsBare stem) : (template d stem property).Explained d := by
  refine explained_declared fun v found => ?_
  split
  · next count read =>
    exact .bare (plain.behind (isBare_of_isDecimal (isDecimal_of_equalTracks read)))
  · exact .literal found stem v v

theorem explained_span (plain : IsBare stem) : (span d stem property).Explained d := by
  refine explained_declared fun v found => ?_
  split
  · exact .bare (isBare_append.mpr ⟨plain, by decide⟩)
  · split
    · next count read =>
      have digits := isBare_of_isDecimal (isDecimal_of_spanCount read)
      exact .bare (isBare_append.mpr ⟨isBare_append.mpr ⟨plain, by decide⟩, digits⟩)
    · exact .literal found stem v v

theorem explained_place {table : Keywords} (bare : table.IsBare) : (place d property table).Explained d :=
  explained_declared fun _ found => explained_keyword found bare (by simp [Literal.declaration]) _

/-! Flexible boxes. -/

theorem explained_flow : (flow d).Explained d := by
  have names : ∀ entry ∈ directionNames ++ wrapNames, IsBare entry.2 := by decide
  refine explained_declared fun v found => ?_
  split
  · next tokens read =>
    refine .join fun o member => ?_
    obtain ⟨t, own, rfl⟩ := List.mem_map.mp member
    exact .bare (forall_of_mapM (fun word token named => names (word, token) (mem_of_flowName named)) read t own)
  · exact .declaration found v

theorem explained_grow : (grow d).Explained d := by
  refine explained_declared fun v found => ?_
  split
  · exact .declaration found v
  · next x read =>
    split
    · exact .none
    · split
      · exact .bare (by decide)
      · exact .direct (.grow found read)

theorem explained_shrink : (shrink d).Explained d := by
  refine explained_declared fun v found => ?_
  split
  · exact .declaration found v
  · next x read =>
    split
    · exact .none
    · split
      · exact .bare (by decide)
      · exact .direct (.shrink found read)

theorem explained_order : (order d).Explained d := by
  refine explained_declared fun v found => ?_
  split
  · exact .none
  · exact .direct (.order found)

/-! Boxes and borders. -/

theorem sideKey?_eq_some_iff {v k : String} : sideKey? v = some k ↔ lengthKey v ≠ "0" ∧ k = lengthKey v := by
  simp only [sideKey?]
  split
  · next zero => simp [zero]
  · next other => simp [other, eq_comm]

/-- Four sides with the notes for their keys, where each key is that of a length that may be noted. -/
theorem explained_consolidate {notes : Output} (noted : String → String → Prop)
    {top right bottom left : Option String} (plain : IsBare stem)
    (known : ∀ p v, noted p v → d.contains p = true ∧ p ∈ spaced) (quiet : notes.emitted = [])
    (own : ∀ f, f ∈ notes.fallbacks ↔ ∃ p v, noted p v ∧ f ∈ (keyNote p v).fallbacks)
    (keys : ∀ k, some k ∈ [top, right, bottom, left] ↔ ∃ p v, noted p v ∧ sideKey? v = some k) :
    (notes ++ join ((consolidate stem top right bottom left).map .token)).Explained d := by
  have letters : ∀ letter ∈ sideLetters, IsBare letter := by decide
  have emitted : (notes ++ join ((consolidate stem top right bottom left).map .token)).emitted =
      consolidate stem top right bottom left := by
    rw [emitted_append, quiet, emitted_consolidate]
    rfl
  have fallbacks : (notes ++ join ((consolidate stem top right bottom left).map .token)).fallbacks =
      notes.fallbacks := by
    rw [fallbacks_append, fallbacks_tokens, List.append_nil]
  refine .keyed noted known (fallbacks ▸ own) ?_ ?_
  · intro p v listed literal
    have other : lengthKey v ≠ "0" := by
      intro zero
      rw [zero] at literal
      exact absurd literal (by decide)
    have written : lengthKey v ≠ "" := by
      intro empty
      rw [empty] at literal
      exact absurd literal (by decide)
    have side := (keys _).mpr ⟨p, v, listed, sideKey?_eq_some_iff.mpr ⟨other, rfl⟩⟩
    obtain ⟨letter, named, member⟩ := exists_mem_consolidate side written
    refine ⟨stem ++ letter ++ "-" ++ lengthKey v, ?_, stem ++ letter, ?_, rfl⟩
    · rw [emitted]
      exact member
    · exact isBare_append.mpr ⟨plain, letters letter named⟩
  · intro t member
    obtain ⟨letter, named, k, side, -, rfl⟩ := mem_consolidate (emitted ▸ member)
    obtain ⟨p, v, listed, key⟩ := (keys k).mp side
    obtain ⟨-, rfl⟩ := sideKey?_eq_some_iff.mp key
    exact ⟨p, v, listed, stem ++ letter, isBare_append.mpr ⟨plain, letters letter named⟩, rfl⟩

theorem mem_fallbacks_declared {f : Fallback} {emit : String → Output} :
    f ∈ (declared d property emit).fallbacks ↔ ∃ v, d.get? property = some v ∧ f ∈ (emit v).fallbacks := by
  unfold declared
  cases d.get? property with
  | none => simp
  | some v => simp

theorem explained_boxRule {shorthand : String} (plain : IsBare stem)
    (listed : ∀ p ∈ (boxRule shorthand stem).properties, p ∈ spaced) :
    ((boxRule shorthand stem).emit d).Explained d := by
  simp only [boxRule]
  split
  · refine explained_consolidate
      (fun p v => ∃ side ∈ sides, p = shorthand ++ "-" ++ side ∧ d.get? p = some v) plain ?_ ?_ ?_ ?_
    · rintro p v ⟨side, named, rfl, found⟩
      exact ⟨Assoc.contains_of_get? found, listed _ (List.mem_cons_of_mem _ (List.mem_map_of_mem named))⟩
    · rw [emitted_join, List.flatMap_map, List.flatMap_eq_nil_iff]
      exact fun side _ => emitted_declared_keyNote d _
    · intro f
      simp only [fallbacks_join, List.flatMap_map, List.mem_flatMap, mem_fallbacks_declared]
      constructor
      · rintro ⟨side, named, v, found, note⟩
        exact ⟨shorthand ++ "-" ++ side, v, ⟨side, named, rfl, found⟩, note⟩
      · rintro ⟨p, v, ⟨side, named, rfl, found⟩, note⟩
        exact ⟨side, named, v, found, note⟩
    · intro k
      show some k ∈ sides.map (fun side => (d.get? (shorthand ++ "-" ++ side)).bind sideKey?) ↔ _
      simp only [List.mem_map, Option.bind_eq_some_iff]
      constructor
      · rintro ⟨side, named, v, found, key⟩
        exact ⟨shorthand ++ "-" ++ side, v, ⟨side, named, rfl, found⟩, key⟩
      · rintro ⟨p, v, ⟨side, named, rfl, found⟩, key⟩
        exact ⟨side, named, v, found, key⟩
  · refine explained_declared fun v found => ?_
    split
    · exact .declaration found v
    · next top right bottom left _ =>
      split
      · refine explained_consolidate
          (fun p part => p = shorthand ∧ part ∈ [top, right, bottom, left]) plain ?_ ?_ ?_ ?_
        · rintro p part ⟨rfl, -⟩
          exact ⟨Assoc.contains_of_get? found, listed p List.mem_cons_self⟩
        · simp [emitted_join, keyNote]
        · simp [fallbacks_join]
        · simp [eq_comm]
      · exact .declaration found v

end Clipping.Utility

import Clipping.Proofs.Number.Numerals
import Clipping.Proofs.Utility.Emitted

/-! Functions in values. Brackets that are balanced in a value are so in the tokens that take it
whole. But box values and values for two axes are taken apart at any blank, one inside of
`calc(5% + 10px)` too, and then each word stands in a token of its own. -/
namespace Clipping

open Text

/-! What is read as a number has no brackets. -/

theorem Text.isPlain_of_isFigure {c : Char} (figure : Decimal.IsFigure c) : isPlain c = true := by
  rcases figure with digit | rfl
  · exact isPlain_of_isDecimal digit
  · rfl

namespace Length

variable {s digits rest : List Char}

theorem isPlain_numeral (found : numeral? s = some (digits, rest)) : ∀ c ∈ digits, isPlain c = true :=
  fun c member => isPlain_of_isFigure ((Decimal.isNumeral_of_numeral found).figures c member)

theorem filter_isBracket_numeral (found : numeral? s = some (digits, rest)) :
    s.filter isBracket = rest.filter isBracket := by
  rw [← Decimal.append_of_numeral found, List.filter_append, filter_isBracket_of_plain (isPlain_numeral found),
    List.nil_append]

theorem filter_isBracket_signedNumeral (found : signedNumeral? s = some (digits, rest)) :
    s.filter isBracket = rest.filter isBracket := by
  have sign : isBracket '-' = false := rfl
  unfold signedNumeral? at found
  split at found
  · next unsigned =>
    obtain ⟨⟨plain, after⟩, own, same⟩ := Option.map_eq_some_iff.mp found
    cases same
    rw [List.filter_cons, sign]
    exact filter_isBracket_numeral own
  · exact filter_isBracket_numeral found

theorem isBalanced_of_pixels {v : String} {x : Finite} (found : pixels? v = some x) : IsBalanced v := by
  have units : ∀ unit ∈ [[], ['p', 'x']], unit.filter isBracket = [] := by decide
  have lowered {c : Char} (bracket : isBracket c = true) : isBracket c.toLower = true := by
    simp only [isBracket, Bool.or_eq_true, beq_iff_eq] at bracket
    rcases bracket with rfl | rfl
    · rfl
    · rfl
  unfold pixels? at found
  split at found
  · next digits rest numeral =>
    split at found
    · next unit =>
      have listed : rest.map Char.toLower ∈ [[], ['p', 'x']] := by simpa using unit
      have none : rest.filter isBracket = [] := List.filter_eq_nil_iff.mpr fun c member bracket =>
        List.filter_eq_nil_iff.mp (units _ listed) _ (List.mem_map_of_mem member) (lowered bracket)
      have same : v.toList.filter isBracket = "".toList.filter isBracket := by
        rw [← filter_isBracket_trim, filter_isBracket_signedNumeral numeral, none]
        rfl
      exact (isBalanced_congr same).mpr (by decide)
    · cases found
  · cases found

end Length

namespace Utility

open Output

theorem isBalanced_of_isZero {v : String} (zero : IsZero v) : IsBalanced v := by
  obtain ⟨x, read, -⟩ := zero
  exact Length.isBalanced_of_pixels read

theorem isBalanced_lengthKey {v : String} : IsBalanced (lengthKey v) ↔ IsBalanced v := by
  unfold lengthKey
  cases found : Scale.key? v with
  | some key =>
    obtain ⟨x, read, named⟩ := Scale.key?_eq_some_iff.mp found
    exact iff_of_true (isPlain_key named).isBalanced (Length.isBalanced_of_pixels read)
  | none =>
    have opening : IsBalanced "[" := by decide
    have closing : IsBalanced "]" := by decide
    exact (closing.append_right_iff _).trans ((opening.append_iff _).trans isBalanced_escaped)

/-! The parts of a border. -/

theorem filter_isBracket_pixelNumeral {s digits rest : List Char}
    (found : pixelNumeral? s = some (digits, rest)) :
    (∀ c ∈ digits, isPlain c = true) ∧ s.filter isBracket = rest.filter isBracket := by
  unfold pixelNumeral? at found
  split at found
  · obtain ⟨⟨figures, after⟩, numeral, unit⟩ := Option.bind_eq_some_iff.mp found
    obtain ⟨behind, parts, same⟩ := Option.map_eq_some_iff.mp unit
    cases same
    refine ⟨Length.isPlain_numeral numeral, ?_⟩
    rw [Length.filter_isBracket_numeral numeral, after?_eq_some.mp parts]
    rfl
  · cases found

theorem filter_isBracket_borderColor {s color : List Char} (found : borderColor? s = some color) :
    color.filter isBracket = s.filter isBracket := by
  unfold borderColor? at found
  simp only at found
  split at found
  · cases found
  · split at found
    · next none =>
      have blank : IsBlankText s := dropBlank_eq_nil_iff.mp (List.isEmpty_iff.mp none)
      split at found
      · next last before others reversed =>
        split at found
        · cases found
        · cases found
          have member : last ∈ s := List.mem_reverse.mp (reversed ▸ List.mem_cons_self)
          rw [filter_isBracket_of_blank blank,
            filter_isBracket_of_blank (List.forall_mem_singleton.mpr (blank last member))]
      · cases found
    · split at found
      · cases found
      · cases found
        exact filter_isBracket_dropBlank s

/-- All the brackets of a border are in its colour. -/
theorem filter_isBracket_borderParts {s : List Char} {parts : BorderParts} (found : borderParts? s = some parts) :
    IsPlain parts.width ∧ parts.color.toList.filter isBracket = s.filter isBracket := by
  simp only [borderParts?, Option.bind_eq_bind, Option.bind_eq_some_iff] at found
  obtain ⟨⟨digits, rest⟩, numeral, color, own, found⟩ := found
  obtain ⟨plain, same⟩ := filter_isBracket_pixelNumeral numeral
  split at found
  · cases found
  · cases found
    have style : ((dropBlank rest).takeWhile fun c => 'a' ≤ c && c ≤ 'z').filter isBracket = [] := by
      refine List.filter_eq_nil_iff.mpr fun c member bracket => ?_
      have letter := List.mem_takeWhile_imp member
      simp only [isBracket, Bool.or_eq_true, beq_iff_eq] at bracket
      rcases bracket with rfl | rfl
      · exact absurd letter (by decide)
      · exact absurd letter (by decide)
    have width : IsPlain (String.ofList (digits ++ ['p', 'x'])) := by
      rw [String.ofList_append]
      exact (isPlain_ofList.mpr plain).append (by decide : IsPlain "px")
    refine ⟨width, ?_⟩
    rw [String.toList_ofList, filter_isBracket_trim, filter_isBracket_borderColor own, same,
      ← filter_isBracket_dropBlank rest]
    have front : ((dropBlank rest).takeWhile fun c => 'a' ≤ c && c ≤ 'z') <+: dropBlank rest :=
      List.takeWhile_prefix _
    conv => rhs; rw [← List.prefix_iff_eq_append.mp front, List.filter_append, style, List.nil_append]

/-! Values that stand in tokens. -/

theorem isBalanced_requoted {v : String} : IsBalanced (requoted v) ↔ IsBalanced v := by
  refine isBalanced_congr ?_
  rw [requoted, String.toList_ofList]
  induction v.toList with
  | nil => rfl
  | cons c s ih =>
    by_cases quote : c = '\x22'
    · simpa [quote, isBracket] using ih
    · simp [quote, List.filter_cons, ih]

variable {d : Declarations}

/-- Any value that stands in a token is balanced if the declared ones are, and what is taken apart. -/
theorem Stands.isBalanced (balanced : ∀ entry ∈ d.entries, IsBalanced entry.2)
    (parts : ∀ part ∈ takenApart d, IsBalanced part) {v : String} (stands : Stands d v) : IsBalanced v := by
  have declared {p v : String} (found : d.get? p = some v) : IsBalanced v :=
    balanced (p, v) (Assoc.get?_eq_some_iff.mp found)
  cases stands with
  | whole found => exact declared found
  | requoted found => exact isBalanced_requoted.mpr (declared found)
  | width _ read => exact (filter_isBracket_borderParts read).1.isBalanced
  | color found read => exact (isBalanced_congr (filter_isBracket_borderParts read).2).mpr (declared found)
  | half found halves => exact isBalanced_of_split_double halves (declared found)
  | part taken => exact parts v taken

/-! Each word that is taken apart has its token, unless it is zero. -/

theorem mem_emitted_length (stem property v : String) :
    stem ++ "-" ++ lengthKey v ∈ (length stem property v).emitted := by
  simp [length, token]

/-- The text ends in the key of the length, and begins with a plain text. -/
def EndsInKey (t v : String) : Prop := ∃ stem, IsPlain stem ∧ t = stem ++ lengthKey v

theorem EndsInKey.isBalanced_iff {t v : String} (ends : EndsInKey t v) : IsBalanced t ↔ IsBalanced v := by
  obtain ⟨stem, plain, rfl⟩ := ends
  exact (plain.isBalanced.append_iff _).trans isBalanced_lengthKey

theorem ends_consolidate {stem v : String} {top right bottom left : Option String} (plain : IsPlain stem)
    (nonzero : ¬IsZero v) (listed : sideKey? v ∈ [top, right, bottom, left]) :
    ∃ t ∈ consolidate stem top right bottom left, EndsInKey t v := by
  have letters : ∀ letter ∈ sideLetters, IsPlain letter := by decide
  obtain ⟨other, written⟩ := lengthKey_of_ne_zero nonzero
  have key : sideKey? v = some (lengthKey v) := by simp [sideKey?, other]
  obtain ⟨letter, named, member⟩ := exists_mem_consolidate (key ▸ listed) written
  exact ⟨_, member, stem ++ letter ++ "-", (plain.append (letters letter named)).append (by decide), rfl⟩

theorem ends_boxRule {shorthand stem word : String} (plain : IsPlain stem) (taken : word ∈ boxParts d shorthand)
    (nonzero : ¬IsZero word) : ∃ t ∈ ((boxRule shorthand stem).emit d).emitted, EndsInKey t word := by
  unfold boxParts at taken
  split at taken
  · cases taken
  · next undeclared =>
    obtain ⟨v, found, few, member⟩ := exists_of_mem_wordsUpTo taken
    simp only [boxRule, if_neg undeclared, declared, found]
    cases expanded : expandBox? v with
    | none =>
      -- then the value has no words, or too many to be taken apart
      rcases split_of_expandBox_none expanded with none | many
      · simp [none] at member
      · omega
    | some box =>
      obtain ⟨top, right, bottom, left⟩ := box
      have listed : word ∈ [top, right, bottom, left] := ((mem_split_of_expandBox expanded).2 word).mp member
      have set : [top, right, bottom, left].any (fun part => isSet (sideKey? part)) = true :=
        List.any_eq_true.mpr ⟨word, listed, isSet_sideKey?.mpr nonzero⟩
      obtain ⟨t, own, ends⟩ := ends_consolidate plain nonzero (List.mem_map_of_mem (f := sideKey?) listed)
      refine ⟨t, ?_, ends⟩
      simp only [set, if_true, emitted_append, emitted_consolidate]
      exact List.mem_append_right _ own

theorem ends_axes {both first second property word : String} (whole : IsPlain both) (one : IsPlain first)
    (other : IsPlain second) (taken : word ∈ wordsUpTo 2 d property) :
    ∃ t ∈ (axes d both first second property).emitted, EndsInKey t word := by
  have dash : IsPlain "-" := by decide
  obtain ⟨v, found, few, member⟩ := exists_of_mem_wordsUpTo taken
  simp only [axes, declared, found]
  split
  · next a words =>
    rw [words, List.mem_singleton] at member
    subst member
    exact ⟨_, mem_emitted_length _ _ _, both ++ "-", whole.append dash, rfl⟩
  · next a b words =>
    rw [words] at member
    split
    · next same =>
      obtain rfl : word = a := by simpa [same] using member
      exact ⟨_, mem_emitted_length _ _ _, both ++ "-", whole.append dash, rfl⟩
    · rcases List.mem_cons.mp member with rfl | member
      · exact ⟨_, List.mem_append_left _ (mem_emitted_length _ _ _), first ++ "-", one.append dash, rfl⟩
      · obtain rfl := List.mem_singleton.mp member
        exact ⟨_, List.mem_append_right _ (mem_emitted_length _ _ _), second ++ "-", other.append dash, rfl⟩
  · next single double =>
    rcases words : split v with _ | ⟨a, _ | ⟨b, _ | ⟨c, rest⟩⟩⟩
    · simp [words] at member
    · exact absurd words (single a)
    · exact absurd words (double a b)
    · simp [words] at few

/-- A word that is taken apart stands in a token alone, unless it is zero. -/
theorem ends_compile (tracked : ∀ p ∈ d.keys, p ∈ Property.tracked) {word : String}
    (taken : word ∈ takenApart d) (nonzero : ¬IsZero word) :
    ∃ t ∈ (Compiler.builtin.compile d).tokens, EndsInKey t word := by
  have boxed {shorthand stem : String} (known : boxRule shorthand stem ∈ builtinRules) (plain : IsPlain stem)
      (part : word ∈ boxParts d shorthand) : ∃ t ∈ (Compiler.builtin.compile d).tokens, EndsInKey t word := by
    obtain ⟨t, member, ends⟩ := ends_boxRule plain part nonzero
    have declared := contains_of_mem_wordsUpTo (boxParts_subset part)
    exact ⟨t, mem_tokens_of_emitted tracked known List.mem_cons_self declared member, ends⟩
  simp only [takenApart, List.mem_append] at taken
  rcases taken with ((padding | margin) | gap) | spacing
  · exact boxed (by simp [builtinRules]) (by decide : IsPlain "p") padding
  · exact boxed (by simp [builtinRules]) (by decide : IsPlain "m") margin
  · have declared := contains_of_mem_wordsUpTo gap
    obtain ⟨t, member, ends⟩ := ends_axes (by decide : IsPlain "gap") (by decide : IsPlain "gap-y")
      (by decide : IsPlain "gap-x") gap
    have emitted : t ∈ (gapRule.emit d).emitted := by simpa only [gapRule, declared, if_true] using member
    exact ⟨t, mem_tokens_of_emitted tracked (by simp [builtinRules]) List.mem_cons_self declared emitted, ends⟩
  · obtain ⟨t, member, ends⟩ := ends_axes (by decide : IsPlain "border-spacing")
      (by decide : IsPlain "border-spacing-x") (by decide : IsPlain "border-spacing-y") spacing
    have emitted : t ∈ (tabularRule.emit d).emitted := by
      simp only [tabularRule, emitted_join, List.mem_flatMap]
      exact ⟨_, by simp, member⟩
    exact ⟨t, mem_tokens_of_emitted tracked (by simp [builtinRules]) (by decide : "border-spacing" ∈ _)
      (contains_of_mem_wordsUpTo spacing) emitted, ends⟩

/-- Tokens of balanced values are balanced as long as the words that are taken apart are. -/
theorem tokens_balanced_iff (tracked : ∀ p ∈ d.keys, p ∈ Property.tracked)
    (balanced : ∀ entry ∈ d.entries, IsBalanced entry.2) :
    (∀ t ∈ (Compiler.builtin.compile d).tokens, IsBalanced t) ↔ ∀ part ∈ takenApart d, IsBalanced part := by
  constructor
  · intro tokens part taken
    -- zero is the one word that may have no token, and a number has no brackets
    by_cases zero : IsZero part
    · exact isBalanced_of_isZero zero
    · obtain ⟨t, member, ends⟩ := ends_compile tracked taken zero
      exact ends.isBalanced_iff.mp (tokens t member)
  · intro parts t member
    obtain ⟨r, known, -, emitted⟩ := (mem_emitted_compile tracked).mp (List.mem_eraseDups.mp member)
    rcases spliced_builtin known t emitted with ⟨-, spliced⟩ | order
    · exact spliced.isBalanced fun v stands => stands.isBalanced balanced parts
    · obtain ⟨v, found, rfl⟩ := mem_emitted_order order
      have own : IsBalanced v := balanced ("order", v) (Assoc.get?_eq_some_iff.mp found)
      exact .append (.append (by decide) own) (by decide)

/-- Functions written without blanks are taken apart at the blank between them only, and a width
is never taken apart. -/
theorem tokens_balanced_tight :
    (∀ p ∈ (Assoc.ofList [("padding", "calc(5%+10px) max(8px,1vw)"), ("width", "calc(100% - 2rem)")]).keys,
      p ∈ Property.tracked) ∧
    (∀ entry ∈ (Assoc.ofList [("padding", "calc(5%+10px) max(8px,1vw)"), ("width", "calc(100% - 2rem)")]).entries,
      IsBalanced entry.2) ∧
    takenApart (.ofList [("padding", "calc(5%+10px) max(8px,1vw)"), ("width", "calc(100% - 2rem)")]) =
      ["calc(5%+10px)", "max(8px,1vw)"] ∧
    ∀ t ∈ (Compiler.builtin.compile
      (.ofList [("padding", "calc(5%+10px) max(8px,1vw)"), ("width", "calc(100% - 2rem)")])).tokens,
      IsBalanced t := by
  have taken : takenApart (.ofList [("padding", "calc(5%+10px) max(8px,1vw)"), ("width", "calc(100% - 2rem)")]) =
      ["calc(5%+10px)", "max(8px,1vw)"] := by decide
  refine ⟨by decide, by decide, taken, ?_⟩
  refine (tokens_balanced_iff (by decide) (by decide)).mpr ?_
  rw [taken]
  decide

/-- A sum within brackets is taken apart like three paddings. -/
theorem calculated_padding_torn :
    "padding" ∈ Property.tracked ∧ IsBalanced "calc(5% + 10px)" ∧
    (Compiler.builtin.compile (.ofList [("padding", "calc(5% + 10px)")])).tokens =
      ["pt-[calc(5%]", "pb-[10px)]", "px-[+]"] ∧
    ¬IsBalanced "pt-[calc(5%]" ∧ ¬IsBalanced "pb-[10px)]" := by
  have tracked : ∀ p ∈ (Assoc.ofList [("padding", "calc(5% + 10px)")]).keys, p ∈ Property.tracked := by decide
  refine ⟨by decide, by decide, ?_, by decide, by decide⟩
  rw [@compile_of_single _ tracked (boxRule "padding" "p") rfl]
  decide

end Utility

end Clipping

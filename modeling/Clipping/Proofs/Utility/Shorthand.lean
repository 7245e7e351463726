import Clipping.Proofs.Text.Joined
import Clipping.Proofs.Utility.Emitted

/-! The two spellings of a box, a shorthand of one to four words and the four sides. They say the
same unless all sides are zero, however the words are spaced; and where a side is declared, the
shorthand says nothing. -/
namespace Clipping

open Text

/-- The words stand in a text, with blanks between every two of them. -/
inductive Spaced : List String → String → Prop where
  | last (word : String) : Spaced [word] word
  | cons (word : String) {gap v : String} {words : List String} (written : gap ≠ "")
      (blank : IsBlankText gap.toList) (later : Spaced words v) : Spaced (word :: words) (word ++ gap ++ v)

theorem split_of_spaced {words : List String} {v : String} (spaced : Spaced words v)
    (own : ∀ word ∈ words, IsWord word) : split v = words := by
  induction spaced with
  | last word =>
    obtain ⟨c, s, rfl, unbroken⟩ := (own word List.mem_cons_self).exists_chars
    simp [split, words_of_unbroken unbroken]
  | @cons word gap v words written blank later ih =>
    obtain ⟨first, others⟩ := List.forall_mem_cons.mp own
    obtain ⟨c, s, rfl, unbroken⟩ := first.exists_chars
    obtain ⟨b, rest, chars⟩ := List.exists_cons_of_ne_nil (mt String.toList_eq_nil_iff.mp written)
    obtain ⟨start, behind⟩ := List.forall_mem_cons.mp (chars ▸ blank)
    have parts : (String.ofList (c :: s) ++ gap ++ v).toList = c :: s ++ b :: (rest ++ v.toList) := by
      simp [chars]
    rw [split, parts, words_append_blank unbroken start, words_append_of_blank behind, List.map_cons]
    exact congrArg _ (ih others)

namespace Utility

open Output

/-- The words of a shorthand for the top, right, bottom and left side. A side that is left out is
that across from it, or the top one. -/
inductive Abbreviates : List String → String → String → String → String → Prop where
  | four (t r b l : String) : Abbreviates [t, r, b, l] t r b l
  | three (t r b : String) : Abbreviates [t, r, b] t r b r
  | two (t r : String) : Abbreviates [t, r] t r t r
  | one (t : String) : Abbreviates [t] t t t t

theorem expandBox?_of_abbreviates {words : List String} {t r b l v : String}
    (short : Abbreviates words t r b l) (parts : split v = words) : expandBox? v = some (t, r, b, l) := by
  unfold expandBox?
  cases short <;> rw [parts]

/-! What the rule of a box emits. -/

variable {shorthand stem : String} {d : Declarations}

def SideDeclared (d : Declarations) (shorthand : String) : Prop :=
  ∃ side ∈ sides, ∃ v, d.get? (shorthand ++ "-" ++ side) = some v ∧ v ≠ ""

theorem sideDeclared_iff : SideDeclared d shorthand ↔
    (sides.any fun side => isSet (d.get? (shorthand ++ "-" ++ side))) = true := by
  rw [SideDeclared, List.any_eq_true]
  refine exists_congr fun side => and_congr_right fun _ => ?_
  cases d.get? (shorthand ++ "-" ++ side) with
  | none => simp [isSet]
  | some v => simp [isSet]

def declaredKey (d : Declarations) (shorthand side : String) : Option String :=
  (d.get? (shorthand ++ "-" ++ side)).bind sideKey?

theorem emitted_boxRule_of_side (set : SideDeclared d shorthand) :
    ((boxRule shorthand stem).emit d).emitted =
      consolidate stem (declaredKey d shorthand "top") (declaredKey d shorthand "right")
        (declaredKey d shorthand "bottom") (declaredKey d shorthand "left") := by
  simp only [boxRule, sideDeclared_iff.mp set, if_true, emitted_append, emitted_consolidate]
  rw [emitted_join, List.flatMap_map]
  simp only [emitted_declared_keyNote]
  simp [declaredKey]

theorem emitted_boxRule_of_shorthand {v t r b l : String} (unset : ¬SideDeclared d shorthand)
    (found : d.get? shorthand = some v) (parts : expandBox? v = some (t, r, b, l))
    (nonzero : ∃ part ∈ [t, r, b, l], ¬IsZero part) :
    ((boxRule shorthand stem).emit d).emitted =
      consolidate stem (sideKey? t) (sideKey? r) (sideKey? b) (sideKey? l) := by
  have any : ([t, r, b, l].any fun part => isSet (sideKey? part)) = true := by
    obtain ⟨part, listed, own⟩ := nonzero
    exact List.any_eq_true.mpr ⟨part, listed, isSet_sideKey?.mpr own⟩
  have undeclared := fun any => unset (sideDeclared_iff.mpr any)
  simp only [boxRule, if_neg undeclared, declared, found, parts, any, if_true, emitted_append,
    emitted_consolidate]
  rw [emitted_join, List.flatMap_map]
  simp [keyNote]

/-! Where only a box is declared, its rule alone applies. -/

/-- The shorthands of boxes, each with the stem of its tokens. -/
def boxes : List (String × String) := [("padding", "p"), ("margin", "m")]

theorem boxRule_mem {box : String × String} (known : box ∈ boxes) : boxRule box.1 box.2 ∈ builtinRules := by
  simp only [boxes, List.mem_cons, List.not_mem_nil, or_false] at known
  rcases known with rfl | rfl
  · simp [builtinRules]
  · simp [builtinRules]

def fourSides (shorthand top right bottom left : String) : Declarations :=
  .ofList [(shorthand ++ "-top", top), (shorthand ++ "-right", right), (shorthand ++ "-bottom", bottom),
    (shorthand ++ "-left", left)]

section

variable {box : String × String} {t r b l : String}

theorem keys_fourSides (known : box ∈ boxes) :
    (fourSides box.1 t r b l).keys = sides.map fun side => box.1 ++ "-" ++ side := by
  simp only [boxes, List.mem_cons, List.not_mem_nil, or_false] at known
  rcases known with rfl | rfl
  · rfl
  · rfl

theorem get?_fourSides (known : box ∈ boxes) :
    sides.map (fun side => (fourSides box.1 t r b l).get? (box.1 ++ "-" ++ side)) =
      [some t, some r, some b, some l] := by
  simp only [boxes, List.mem_cons, List.not_mem_nil, or_false] at known
  rcases known with rfl | rfl
  · rfl
  · rfl

theorem emitted_fourSides (known : box ∈ boxes) (written : t ≠ "") :
    (Compiler.builtin.compile (fourSides box.1 t r b l)).emitted =
      consolidate box.2 (sideKey? t) (sideKey? r) (sideKey? b) (sideKey? l) := by
  have keys := @keys_fourSides box t r b l known
  have answers := @get?_fourSides box t r b l known
  simp only [sides, List.map_cons, List.map_nil, List.cons.injEq, and_true] at answers
  obtain ⟨top, right, bottom, left⟩ := answers
  have set : SideDeclared (fourSides box.1 t r b l) box.1 := ⟨"top", by decide, t, top, written⟩
  have own : ∀ p ∈ (fourSides box.1 t r b l).keys, p ∈ (boxRule box.1 box.2).properties := by
    rw [keys]
    exact fun p member => List.mem_cons_of_mem _ member
  rw [compile_of_reads (boxRule_mem known) own (by simp [keys, sides]), emitted_boxRule_of_side set]
  simp only [declaredKey, top, right, bottom, left, Option.bind_some]

theorem emitted_shorthand (known : box ∈ boxes) {v : String} (parts : expandBox? v = some (t, r, b, l))
    (nonzero : ∃ part ∈ [t, r, b, l], ¬IsZero part) :
    (Compiler.builtin.compile (.ofList [(box.1, v)])).emitted =
      consolidate box.2 (sideKey? t) (sideKey? r) (sideKey? b) (sideKey? l) := by
  have own : ∀ p ∈ (Assoc.ofList [(box.1, v)]).keys, p ∈ (boxRule box.1 box.2).properties :=
    List.forall_mem_singleton.mpr List.mem_cons_self
  have unset : ¬SideDeclared (.ofList [(box.1, v)]) box.1 := by
    rintro ⟨side, -, w, found, -⟩
    rw [get?_single] at found
    split at found
    · next same => exact side_ne_shorthand box.1 side same
    · cases found
  rw [compile_of_reads (boxRule_mem known) own (List.cons_ne_nil _ _)]
  exact emitted_boxRule_of_shorthand unset (by simp [get?_single]) parts nonzero

end

/-! Where a side is declared. -/

theorem emit_boxRule_congr {other : Declarations} (set : SideDeclared d shorthand)
    (same : ∀ p, p ≠ shorthand → d.get? p = other.get? p) :
    (boxRule shorthand stem).emit d = (boxRule shorthand stem).emit other := by
  have answers (side : String) : d.get? (shorthand ++ "-" ++ side) = other.get? (shorthand ++ "-" ++ side) :=
    same _ (side_ne_shorthand shorthand side)
  have any := sideDeclared_iff.mp set
  simp only [answers] at any
  simp only [boxRule, declared, answers, any, if_true]

theorem applies_boxRule (set : SideDeclared d shorthand) : (boxRule shorthand stem).applies d = true := by
  obtain ⟨side, listed, v, found, -⟩ := set
  refine List.any_eq_true.mpr ⟨shorthand ++ "-" ++ side, ?_, Assoc.contains_of_get? found⟩
  exact List.mem_cons_of_mem _ (List.mem_map_of_mem listed)

/-- Where a side is declared, the shorthand says nothing. -/
theorem compile_of_side {box : String × String} (known : box ∈ boxes) {other : Declarations}
    (set : SideDeclared d box.1) (same : d.erase box.1 = other.erase box.1) :
    Compiler.builtin.compile d = Compiler.builtin.compile other := by
  have answers (p : String) (apart : p ≠ box.1) : d.get? p = other.get? p := get?_of_erase_eq same apart
  have setOther : SideDeclared other box.1 := by
    obtain ⟨side, listed, v, found, written⟩ := set
    exact ⟨side, listed, v, answers _ (side_ne_shorthand box.1 side) ▸ found, written⟩
  obtain ⟨before, after, own, changed⟩ := compile_apart (boxRule_mem known) List.mem_cons_self same
    (applies_boxRule set) (applies_boxRule setOther)
  rw [own, changed, emit_boxRule_congr set answers]

theorem not_isZero_of_key? {v : String} (other : Scale.key? v ≠ some "0") : ¬IsZero v := by
  rintro ⟨x, read, zero⟩
  exact other (Scale.key?_eq_some_iff.mpr ⟨x, read, Scale.key_standard_of_zero zero⟩)

/-- A shorthand of padding or margin has the tokens of the four sides that it stands for, unless they
are all zero. Once a side is declared, the shorthand may come, go or change. -/
theorem shorthand_agrees {shorthand : String} (box : shorthand ∈ ["padding", "margin"]) :
    (∀ (words : List String) (t r b l v : String), Abbreviates words t r b l → Spaced words v →
      (∀ word ∈ words, IsWord word) → (∃ part ∈ [t, r, b, l], Scale.key? part ≠ some "0") →
        (Compiler.builtin.compile (.ofList [(shorthand, v)])).tokens =
          (Compiler.builtin.compile (fourSides shorthand t r b l)).tokens) ∧
    ∀ d other : Declarations, SideDeclared d shorthand → d.erase shorthand = other.erase shorthand →
      Compiler.builtin.compile d = Compiler.builtin.compile other := by
  obtain ⟨stem, known⟩ : ∃ stem, (shorthand, stem) ∈ boxes := by
    simp only [List.mem_cons, List.not_mem_nil, or_false] at box
    rcases box with rfl | rfl
    · exact ⟨"p", by simp [boxes]⟩
    · exact ⟨"m", by simp [boxes]⟩
  constructor
  · intro words t r b l v short spaced own nonzero
    have parts := expandBox?_of_abbreviates short (split_of_spaced spaced own)
    have written : t ≠ "" := by
      have first : t ∈ words := by cases short <;> exact List.mem_cons_self
      exact (own t first).1
    have shown : ∃ part ∈ [t, r, b, l], ¬IsZero part :=
      nonzero.imp fun part found => ⟨found.1, not_isZero_of_key? found.2⟩
    have whole := emitted_shorthand known parts shown
    have sides := @emitted_fourSides _ t r b l known written
    exact congrArg List.eraseDups (whole.trans sides.symm)
  · intro d other set same
    exact compile_of_side known set same

/-- Three words, one of them off the scale and one zero, and a padding that its top side hides. -/
theorem shorthand_agrees_uneven :
    "padding" ∈ ["padding", "margin"] ∧
    Abbreviates ["8px", "5%", "0"] "8px" "5%" "0" "5%" ∧ Spaced ["8px", "5%", "0"] "8px  5%\t0" ∧
    (∀ word ∈ ["8px", "5%", "0"], IsWord word) ∧
    (∃ part ∈ ["8px", "5%", "0", "5%"], Scale.key? part ≠ some "0") ∧
    (Compiler.builtin.compile (.ofList [("padding", "8px  5%\t0")])).tokens =
      (Compiler.builtin.compile (fourSides "padding" "8px" "5%" "0" "5%")).tokens ∧
    SideDeclared (.ofList [("padding", "1px"), ("padding-top", "4px")]) "padding" ∧
    (Assoc.ofList [("padding", "1px"), ("padding-top", "4px")]).erase "padding" =
      (Assoc.ofList [("padding-top", "4px"), ("padding", "9%")]).erase "padding" ∧
    Compiler.builtin.compile (.ofList [("padding", "1px"), ("padding-top", "4px")]) =
      Compiler.builtin.compile (.ofList [("padding-top", "4px"), ("padding", "9%")]) := by
  have box : "padding" ∈ ["padding", "margin"] := by decide
  have short : Abbreviates ["8px", "5%", "0"] "8px" "5%" "0" "5%" := .three _ _ _
  have spaced : Spaced ["8px", "5%", "0"] "8px  5%\t0" :=
    .cons "8px" (by decide : "  " ≠ "") (by decide) (.cons "5%" (by decide : "\t" ≠ "") (by decide) (.last "0"))
  have words : ∀ word ∈ ["8px", "5%", "0"], IsWord word := by decide
  have nonzero : ∃ part ∈ ["8px", "5%", "0", "5%"], Scale.key? part ≠ some "0" := by decide +kernel
  have set : SideDeclared (.ofList [("padding", "1px"), ("padding-top", "4px")]) "padding" :=
    ⟨"top", by decide, "4px", rfl, by decide⟩
  have same : (Assoc.ofList [("padding", "1px"), ("padding-top", "4px")]).erase "padding" =
      (Assoc.ofList [("padding-top", "4px"), ("padding", "9%")]).erase "padding" := by decide
  exact ⟨box, short, spaced, words, nonzero, (shorthand_agrees box).1 _ _ _ _ _ _ short spaced words nonzero,
    set, same, (shorthand_agrees box).2 _ _ set same⟩

end Utility

end Clipping

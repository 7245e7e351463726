import Clipping.Config.Reading
import Clipping.Proofs.Config.Collision

/-! Which names a configuration is refused for, from the fields that it is read from. Fields that
are valid on their own satisfy the bounds of the settings, whether they are given or left to
their defaults, so only the two names can be at fault. -/
namespace Clipping.Config

variable {rootClass childStem : String}

/-- All fields are valid on their own: given and readable, or left out, and none is unknown. -/
structure AreRead (data : List (String × Json)) (rootClass childStem overlayStem : String)
    (indentWidth inlineLimit : Nat) : Prop where
  rootClass : readField (readText true) rootClassField standard.rootClass data = .ok rootClass
  childStem : readField (readText true) childStemField standard.childStem data = .ok childStem
  overlayStem : readField (readText false) overlayStemField standard.overlayStem data = .ok overlayStem
  indentWidth : readField (readCount (some 8)) indentWidthField standard.indentWidth data = .ok indentWidth
  inlineLimit : readField (readCount none) inlineLimitField standard.inlineLimit data = .ok inlineLimit
  known : unknownFields data = []

/-- What holds of the default and of everything that is read holds of the field. -/
theorem readField_induction {α : Type} {P : α → Prop} {read : Json → Except Fault α}
    {names : String × String} {default v : α} {data : List (String × Json)} (initial : P default)
    (kept : ∀ j v, read j = .ok v → P v) (found : readField read names default data = .ok v) : P v := by
  unfold readField at found
  split at found
  · cases found
    exact initial
  · next j _ =>
    cases answer : read j with
    | error fault =>
      rw [answer] at found
      cases found
    | ok w =>
      rw [answer] at found
      cases found
      exact kept j v answer

theorem readText_ne_empty {j : Json} {s : String} (found : readText true j = .ok s) : s ≠ "" := by
  cases j with
  | text t =>
    by_cases empty : t = ""
    · subst empty
      cases found
    · simp only [readText, Bool.true_and, String.isEmpty_iff, empty, if_false] at found
      cases found
      exact empty
  | _ => cases found

theorem readCount_pos {greatest : Option Nat} {j : Json} {n : Nat}
    (found : readCount greatest j = .ok n) : 1 ≤ n ∧ ∀ most ∈ greatest, n ≤ most := by
  unfold readCount at found
  split at found
  · cases found
  · next k _ =>
    split at found
    · cases found
    · split at found
      · next most =>
        split at found
        · cases found
        · cases found
          refine ⟨by omega, fun _ same => ?_⟩
          cases same
          omega
      · cases found
        exact ⟨by omega, fun _ none => by cases none⟩

variable {data : List (String × Json)} {overlayStem : String} {indentWidth inlineLimit : Nat}

namespace AreRead

variable (fields : AreRead data rootClass childStem overlayStem indentWidth inlineLimit)
include fields

theorem rootClass_ne : rootClass ≠ "" :=
  readField_induction (P := (· ≠ "")) standard.rootClass_ne (fun _ _ => readText_ne_empty)
    fields.rootClass

theorem childStem_ne : childStem ≠ "" :=
  readField_induction (P := (· ≠ "")) standard.childStem_ne (fun _ _ => readText_ne_empty)
    fields.childStem

theorem indentWidth_bounds : 1 ≤ indentWidth ∧ indentWidth ≤ 8 :=
  readField_induction (P := fun n => 1 ≤ n ∧ n ≤ 8) ⟨standard.indentWidth_pos, standard.indentWidth_le⟩
    (fun _ _ found => ⟨(readCount_pos found).1, (readCount_pos found).2 8 rfl⟩) fields.indentWidth

theorem inlineLimit_pos : 1 ≤ inlineLimit :=
  readField_induction (P := fun n => 1 ≤ n) standard.inlineLimit_pos
    (fun _ _ found => (readCount_pos found).1) fields.inlineLimit

/-- Fields that are valid on their own are refused for one reason only. -/
theorem read_eq : read data = (make? rootClass childStem overlayStem indentWidth inlineLimit).elim
    (.error [⟨"", .collision rootClass childStem⟩]) .ok := by
  cases made : make? rootClass childStem overlayStem indentWidth inlineLimit <;>
    simp only [read, fields.rootClass, fields.childStem, fields.overlayStem, fields.indentWidth,
      fields.inlineLimit, fields.known, made, Option.elim]

theorem read_of_collides (collision : collides rootClass childStem = true) :
    read data = .error [⟨"", .collision rootClass childStem⟩] := by
  have refused : make? rootClass childStem overlayStem indentWidth inlineLimit = none := by
    rw [make?, dif_neg]
    rintro ⟨-, -, -, -, -, apart⟩
    rw [collision] at apart
    cases apart
  rw [fields.read_eq, refused, Option.elim_none]

theorem read_of_not_collides (apart : collides rootClass childStem = false) :
    ∃ c, read data = .ok c ∧ c.rootClass = rootClass ∧ c.childStem = childStem ∧
      c.className = generatedName rootClass childStem := by
  obtain ⟨wide, narrow⟩ := fields.indentWidth_bounds
  let made : Config := ⟨rootClass, childStem, overlayStem, indentWidth, inlineLimit, fields.rootClass_ne,
    fields.childStem_ne, wide, narrow, fields.inlineLimit_pos, apart⟩
  have accepted : make? rootClass childStem overlayStem indentWidth inlineLimit = some made :=
    dif_pos ⟨made.rootClass_ne, made.childStem_ne, wide, narrow, made.inlineLimit_pos, apart⟩
  have read : read data = .ok made := by
    rw [fields.read_eq, accepted, Option.elim_some]
  exact ⟨made, read, rfl, rfl, rfl⟩

end AreRead

/-- Names that are valid on their own are refused where two elements would share one, and also
where the root name is foreign, though no two elements would; all others are accepted. -/
theorem names_checked
    (fields : AreRead data rootClass childStem overlayStem indentWidth inlineLimit) :
    (read data = .error [⟨"", .collision rootClass childStem⟩] ↔
      IsTaken rootClass childStem ∨ IsForeign rootClass childStem) ∧
    ((∃ c, read data = .ok c ∧ c.rootClass = rootClass ∧ c.childStem = childStem ∧
        c.className = generatedName rootClass childStem) ↔
      Function.Injective (generatedName rootClass childStem) ∧ ¬IsForeign rootClass childStem) ∧
    (IsForeign rootClass childStem → Function.Injective (generatedName rootClass childStem)) := by
  have refused : collides rootClass childStem = true ↔
      IsTaken rootClass childStem ∨ IsForeign rootClass childStem := collides_iff_taken fields.childStem_ne
  refine ⟨?_, ?_, fun foreign => injective_generatedName_iff.mpr foreign.not_isTaken⟩
  · rw [← refused]
    constructor
    · intro stopped
      cases check : collides rootClass childStem with
      | true => rfl
      | false =>
        obtain ⟨c, accepted, -⟩ := fields.read_of_not_collides check
        rw [accepted] at stopped
        cases stopped
    · exact fields.read_of_collides
  · rw [injective_generatedName_iff, ← not_or, ← refused]
    constructor
    · rintro ⟨c, accepted, -⟩ collision
      rw [fields.read_of_collides collision] at accepted
      cases accepted
    · intro apart
      exact fields.read_of_not_collides (Bool.not_eq_true _ ▸ apart)

theorem readField_text {names : String × String} {default s : String} {data : List (String × Json)}
    (given : given? names data = some (.text s)) (nonempty : s ≠ "") :
    readField (readText true) names default data = .ok s := by
  simp only [readField, given, readText, Bool.true_and, String.isEmpty_iff, nonempty, if_false]
  rfl

/-- Any two names that are not empty can be given, and nothing else has to be. -/
theorem areRead_names {rootClass childStem : String} (root : rootClass ≠ "") (stem : childStem ≠ "") :
    AreRead [("rootClassName", .text rootClass), ("childClassPrefix", .text childStem)]
      rootClass childStem standard.overlayStem standard.indentWidth standard.inlineLimit where
  rootClass := readField_text rfl root
  childStem := readField_text rfl stem
  overlayStem := rfl
  indentWidth := rfl
  inlineLimit := rfl
  known := rfl

theorem names_checked_taken :
    AreRead [("rootClassName", .text "x10"), ("childClassPrefix", .text "x")] "x10" "x"
      standard.overlayStem standard.indentWidth standard.inlineLimit ∧
    read [("rootClassName", .text "x10"), ("childClassPrefix", .text "x")] =
      .error [⟨"", .collision "x10" "x"⟩] := by
  have taken : IsTaken "x10" "x" :=
    isTaken_iff.mpr ⟨'1', ['0'], by decide, by decide, List.all_eq_true.mp (by decide)⟩
  have fields := @areRead_names "x10" "x" (by decide) (by decide)
  exact ⟨fields, (names_checked fields).1.mpr (.inl taken)⟩

/-- A superscript is a digit, but no ordinal is written with one. -/
theorem superscript_refused :
    read [("rootClassName", .text "x²"), ("childClassPrefix", .text "x")] =
      .error [⟨"", .collision "x²" "x"⟩] ∧
    Function.Injective (generatedName "x²" "x") ∧ ¬IsTaken "x²" "x" := by
  have foreign : IsForeign "x²" "x" :=
    ⟨'²', [], by decide, by decide, List.all_eq_true.mp (by decide), '²', List.mem_singleton_self _, by decide⟩
  have fields := @areRead_names "x²" "x" (by decide) (by decide)
  refine ⟨fields.read_of_collides ?_, ?_, foreign.not_isTaken⟩
  · exact (collides_iff_taken (by decide)).mpr (.inr foreign)
  · exact injective_generatedName_iff.mpr foreign.not_isTaken

end Clipping.Config

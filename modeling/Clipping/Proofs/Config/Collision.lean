import Clipping.Proofs.Config.Naming
import Mathlib.Logic.Function.Defs

/-! When two elements would share a name, and when the check of the two names says so. The check
looks at the text behind the stem: digits, the first of them not a zero. Where they are those
that numbers are written with, an ordinal gives the name of the root. Where one of them is of
another script, or has no place value, no ordinal does, and it is refused all the same. -/
namespace Clipping

/-- The class name of the element with a number: the root's own, or the stem and an ordinal. -/
def generatedName (rootClass childStem : String) (index : Nat) : String :=
  if index = 0 then rootClass else childStem ++ toString (index : Int)

/-- Some ordinal gives the name of the root. -/
def IsTaken (rootClass childStem : String) : Prop :=
  ∃ n : Nat, 0 < n ∧ childStem ++ toString (n : Int) = rootClass

/-- The root name is the stem and a text of digits without a leading zero that numbers are not
written with. -/
def IsForeign (rootClass childStem : String) : Prop :=
  ∃ first rest, rootClass.toList = childStem.toList ++ first :: rest ∧ first ≠ '0' ∧
    (∀ c ∈ first :: rest, Text.isDigit c = true) ∧ ∃ c ∈ first :: rest, c.isDigit = false

theorem digitChar_of_isDigit {c : Char} (digit : c.isDigit = true) :
    Nat.digitChar (c.toNat - 48) = c ∧ c.toNat - 48 < 10 := by
  simp only [Char.isDigit, Bool.and_eq_true, decide_eq_true_eq] at digit
  obtain ⟨above, below⟩ : 48 ≤ c.toNat ∧ c.toNat ≤ 57 := digit
  have small : c.toNat - 48 < 10 := by omega
  have code : (Nat.digitChar (c.toNat - 48)).toNat = c.toNat := by
    have value := Nat.toNat_digitChar_of_lt_ten small
    omega
  exact ⟨Char.toNat_inj.mp code, small⟩

/-- Digits behind the numeral of a number that is not zero make the numeral of another one. -/
theorem exists_toDigits_append {n : Nat} (positive : 0 < n) {digits : List Char}
    (figures : ∀ c ∈ digits, c.isDigit = true) :
    ∃ m, 0 < m ∧ Nat.toDigits 10 m = Nat.toDigits 10 n ++ digits := by
  induction digits generalizing n with
  | nil => exact ⟨n, positive, (List.append_nil _).symm⟩
  | cons c rest ih =>
    obtain ⟨figure, figures⟩ := List.forall_mem_cons.mp figures
    obtain ⟨same, small⟩ := digitChar_of_isDigit figure
    have one : Nat.toDigits 10 (10 * n + (c.toNat - 48)) = Nat.toDigits 10 n ++ [c] := by
      rw [← Nat.toDigits_append_toDigits (by decide) positive small,
        Nat.toDigits_of_lt_base small, same]
    obtain ⟨m, above, written⟩ := ih (n := 10 * n + (c.toNat - 48)) (by omega) figures
    refine ⟨m, above, ?_⟩
    rw [written, one, List.append_assoc, List.singleton_append]

/-- Digits without a leading zero are the numeral of a number. -/
theorem exists_toDigits_eq {first : Char} {rest : List Char} (nonzero : first ≠ '0')
    (figures : ∀ c ∈ first :: rest, c.isDigit = true) :
    ∃ n, 0 < n ∧ Nat.toDigits 10 n = first :: rest := by
  obtain ⟨figure, figures⟩ := List.forall_mem_cons.mp figures
  obtain ⟨same, small⟩ := digitChar_of_isDigit figure
  have positive : 0 < first.toNat - 48 := by
    apply Nat.pos_of_ne_zero
    intro zero
    rw [zero] at same
    exact nonzero same.symm
  obtain ⟨n, above, written⟩ := exists_toDigits_append positive figures
  refine ⟨n, above, ?_⟩
  rw [written, Nat.toDigits_of_lt_base small, same, List.singleton_append]

theorem isDigit_of_figure {c : Char} (figure : c.isDigit = true) : Text.isDigit c = true := by
  obtain ⟨same, small⟩ := digitChar_of_isDigit figure
  apply isDigit_of_mem_toDigits (n := c.toNat - 48)
  rw [Nat.toDigits_of_lt_base small, same]
  exact List.mem_singleton_self c

variable {rootClass childStem : String}

theorem collides_iff (named : childStem ≠ "") : collides rootClass childStem = true ↔
    ∃ first rest, rootClass.toList = childStem.toList ++ first :: rest ∧ first ≠ '0' ∧
      ∀ c ∈ first :: rest, Text.isDigit c = true := by
  constructor
  · intro found
    unfold collides at found
    split at found
    · next first rest behind =>
      simp only [Bool.and_eq_true, bne_iff_ne, List.all_eq_true] at found
      exact ⟨first, rest, Text.after?_eq_some.mp behind, found.1.2, found.2⟩
    · cases found
  · rintro ⟨first, rest, text, nonzero, digits⟩
    have stem : childStem.isEmpty = false := by simp [named]
    unfold collides
    rw [Text.after?_eq_some.mpr text]
    simp only [stem, bne_iff_ne.mpr nonzero, List.all_eq_true.mpr digits]
    rfl

/-- A name is taken where the digits are those of numbers. -/
theorem isTaken_iff : IsTaken rootClass childStem ↔
    ∃ first rest, rootClass.toList = childStem.toList ++ first :: rest ∧ first ≠ '0' ∧
      ∀ c ∈ first :: rest, c.isDigit = true := by
  constructor
  · rintro ⟨n, positive, rfl⟩
    obtain ⟨first, rest, written⟩ :=
      List.exists_cons_of_ne_nil (Nat.toDigits_ne_nil : Nat.toDigits 10 n ≠ [])
    refine ⟨first, rest, ?_, ?_, ?_⟩
    · rw [String.toList_append, toList_toString, written]
    · have leading := head_toDigits positive
      rw [written] at leading
      simpa using leading
    · intro c member
      exact Nat.isDigit_of_mem_toDigits (by decide) (by decide) (written ▸ member)
  · rintro ⟨first, rest, text, nonzero, figures⟩
    obtain ⟨n, positive, written⟩ := exists_toDigits_eq nonzero figures
    refine ⟨n, positive, ?_⟩
    apply String.toList_inj.mp
    rw [String.toList_append, toList_toString, written, text]

/-- The check refuses what is taken, and what only looks as if it were. -/
theorem collides_iff_taken (named : childStem ≠ "") : collides rootClass childStem = true ↔
    IsTaken rootClass childStem ∨ IsForeign rootClass childStem := by
  rw [collides_iff named, isTaken_iff]
  constructor
  · rintro ⟨first, rest, text, nonzero, digits⟩
    by_cases figures : ∀ c ∈ first :: rest, c.isDigit = true
    · exact .inl ⟨first, rest, text, nonzero, figures⟩
    · obtain ⟨c, mixed⟩ := Classical.not_forall.mp figures
      obtain ⟨member, other⟩ := Classical.not_imp.mp mixed
      exact .inr ⟨first, rest, text, nonzero, digits, c, member, Bool.not_eq_true _ ▸ other⟩
  · rintro (⟨first, rest, text, nonzero, figures⟩ | ⟨first, rest, text, nonzero, digits, -⟩)
    · exact ⟨first, rest, text, nonzero, fun c member => isDigit_of_figure (figures c member)⟩
    · exact ⟨first, rest, text, nonzero, digits⟩

theorem IsForeign.not_isTaken (foreign : IsForeign rootClass childStem) :
    ¬IsTaken rootClass childStem := by
  intro taken
  obtain ⟨first, rest, text, -, -, c, member, other⟩ := foreign
  obtain ⟨first', rest', text', -, figures⟩ := isTaken_iff.mp taken
  have same := List.append_cancel_left (text.symm.trans text')
  rw [same] at member
  rw [figures c member] at other
  cases other

/-- Names repeat exactly where that of the root is taken: ordinals are told apart in any case. -/
theorem injective_generatedName_iff :
    Function.Injective (generatedName rootClass childStem) ↔ ¬IsTaken rootClass childStem := by
  constructor
  · rintro injective ⟨n, positive, same⟩
    have repeated : generatedName rootClass childStem n = generatedName rootClass childStem 0 := by
      rw [generatedName, if_neg (Nat.ne_of_gt positive), same, generatedName, if_pos rfl]
    exact Nat.ne_of_gt positive (injective repeated)
  · intro free m n same
    unfold generatedName at same
    split at same
    · next zero =>
      split at same
      · omega
      · next positive => exact absurd ⟨n, Nat.pos_of_ne_zero positive, same.symm⟩ free
    · next positive =>
      split at same
      · exact absurd ⟨m, Nat.pos_of_ne_zero positive, same⟩ free
      · have lists := congrArg String.toList same
        rw [String.toList_append, String.toList_append, toList_toString, toList_toString] at lists
        exact toDigits_injective (List.append_cancel_left lists)

end Clipping

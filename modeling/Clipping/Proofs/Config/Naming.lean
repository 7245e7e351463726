import Clipping.Config.Basic

/-! Class names tell the elements of a tree apart. A generated name is the stem and a
numeral without leading zeros, so a root name that equals one is a collision. -/
namespace Clipping

theorem toList_toString (n : Nat) : (toString (n : Int)).toList = Nat.toDigits 10 n := by
  show (Nat.repr n).toList = _
  exact Nat.toList_repr

theorem toDigits_injective {m n : Nat} (same : Nat.toDigits 10 m = Nat.toDigits 10 n) : m = n := by
  have read := congrArg (fun digits => Nat.ofDigitChars 10 digits 0) same
  simpa only [Nat.ofDigitChars_ten_toDigits] using read

theorem head_toDigits {n : Nat} (positive : 0 < n) : (Nat.toDigits 10 n).head? ≠ some '0' := by
  induction n using Nat.strongRecOn with
  | ind n ih =>
    rw [Nat.toDigits_eq_if (by decide)]
    split
    · simp only [List.head?_cons, ne_eq, Option.some.injEq, Nat.digitChar_eq_zero]
      omega
    · obtain ⟨first, found⟩ := Option.isSome_iff_exists.mp
        (List.isSome_head?.mpr (Nat.toDigits_ne_nil (n := n / 10) (b := 10)))
      rw [List.head?_append, found, Option.some_or, ← found]
      exact ih (n / 10) (by omega) (by omega)

theorem isDecimal_of_mem_toDigits {n : Nat} {c : Char} (member : c ∈ Nat.toDigits 10 n) :
    Text.isDecimal c = true := by
  have digit : c.isDigit = true := Nat.isDigit_of_mem_toDigits (by decide) (by decide) member
  have bound : c.toNat < 128 := by
    simp only [Char.isDigit, Bool.and_eq_true, decide_eq_true_eq] at digit
    exact Nat.lt_of_le_of_lt digit.2 (by decide)
  simp [Text.isDecimal, Text.digitValue?, digit, bound]

theorem exists_toDigits (n : Nat) :
    ∃ c digits, Nat.toDigits 10 n = c :: digits ∧ Text.isDecimal c = true := by
  obtain ⟨c, digits, chars⟩ := List.exists_cons_of_ne_nil (Nat.toDigits_ne_nil : Nat.toDigits 10 n ≠ [])
  exact ⟨c, digits, chars, isDecimal_of_mem_toDigits (chars ▸ List.mem_cons_self)⟩

theorem isDigit_of_mem_toDigits {n : Nat} {c : Char} (member : c ∈ Nat.toDigits 10 n) :
    Text.isDigit c = true := by
  rw [Text.isDigit, isDecimal_of_mem_toDigits member, Bool.true_or]

namespace Config

theorem toList_childClass (c : Config) (n : Nat) :
    (c.childClass n).toList = c.childStem.toList ++ Nat.toDigits 10 n := by
  rw [childClass, String.toList_append, toList_toString]

theorem childClass_injective (c : Config) {m n : Nat} (same : c.childClass m = c.childClass n) :
    m = n := by
  have lists := congrArg String.toList same
  rw [toList_childClass, toList_childClass] at lists
  exact toDigits_injective (List.append_cancel_left lists)

/-- The configuration was refused if it gave the root the name of another element. -/
theorem rootClass_ne_childClass (c : Config) {n : Nat} (positive : 0 < n) :
    c.rootClass ≠ c.childClass n := by
  intro same
  have lists := congrArg String.toList same
  rw [toList_childClass] at lists
  have collision : collides c.rootClass c.childStem = true := by
    unfold collides
    rw [Text.after?_eq_some.mpr lists]
    have leading := head_toDigits positive
    cases digits : Nat.toDigits 10 n with
    | nil => exact absurd digits Nat.toDigits_ne_nil
    | cons first rest =>
      have numeral : ∀ d ∈ first :: rest, Text.isDigit d = true := fun d member =>
        isDigit_of_mem_toDigits (digits ▸ member)
      rw [digits] at leading
      have stem : c.childStem.isEmpty = false := by simp [c.childStem_ne]
      have first_ne : first ≠ '0' := by simpa using leading
      simp only [stem, bne_iff_ne.mpr first_ne, List.all_eq_true.mpr numeral]
      rfl
  rw [c.distinct] at collision
  contradiction

theorem className_injective (c : Config) {m n : Nat} (same : c.className m = c.className n) :
    m = n := by
  unfold className at same
  split at same <;> split at same
  · omega
  · exact absurd same (c.rootClass_ne_childClass (by omega))
  · exact absurd same.symm (c.rootClass_ne_childClass (by omega))
  · exact c.childClass_injective same

theorem className_ne (c : Config) (n : Nat) : c.className n ≠ "" := by
  unfold className
  split
  · exact c.rootClass_ne
  · intro empty
    have lists := congrArg String.toList empty
    rw [toList_childClass] at lists
    simp [Nat.toDigits_ne_nil] at lists

end Config

end Clipping

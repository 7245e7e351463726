import Clipping.Length
import Clipping.Proofs.Text.Balanced

/-! Numbers are spelled without blanks and brackets, and so are amounts of pixels. -/
namespace Clipping

open Text

theorem isPlain_of_mem_toDigits {n : Nat} {c : Char} (member : c ∈ Nat.toDigits 10 n) : isPlain c = true :=
  isPlain_of_isDigit (Nat.isDigit_of_mem_toDigits (by decide) (by decide) member)

theorem isPlain_toString (n : Int) : IsPlain (toString n) := by
  cases n with
  | ofNat n =>
    intro c member
    exact isPlain_of_mem_toDigits (toList_toString n ▸ member)
  | negSucc n =>
    show IsPlain ("-" ++ toString (n + 1 : Nat))
    refine .append (by decide) fun c member => ?_
    exact isPlain_of_mem_toDigits (toList_toString (n + 1) ▸ member)

namespace Digits

theorem isPlain_of_mem_onGrid {size : Rat} {r : Rounding} {point : Int} {count : Nat} {d : Digits}
    (found : onGrid? size r point count = some d) : ∀ c ∈ d.digits, isPlain c = true := by
  have picked (n : Nat) : ∀ c ∈ ((Nat.toDigits 10 n).reverse.dropWhile (· == '0')).reverse, isPlain c = true := by
    intro c member
    exact isPlain_of_mem_toDigits
      (List.mem_reverse.mp ((List.dropWhile_sublist _).mem (List.mem_reverse.mp member)))
  unfold onGrid? at found
  simp only at found
  split at found
  · rw [← Option.some.inj found]
    exact picked _
  · rw [← Option.some.inj found]
    exact picked _
  · rw [← Option.some.inj found]
    exact picked _
  · cases found

theorem isPlain_of_mem_shortest (x : Finite) : ∀ c ∈ (shortest x).digits, isPlain c = true := by
  unfold shortest
  simp only
  cases found : (List.range 17).findSome? fun k => onGrid? x.magnitude x.rounding
      (decimalPoint x.magnitude.num.natAbs x.magnitude.den) (k + 1) with
  | none => simp
  | some d =>
    obtain ⟨k, -, own⟩ := List.exists_of_findSome?_eq_some found
    exact isPlain_of_mem_onGrid own

theorem isPlain_of_mem_zeros {n : Int} : ∀ c ∈ zeros n, isPlain c = true := by
  intro c member
  rw [List.eq_of_mem_replicate member]
  rfl

theorem isPlain_of_mem_exponentText (e : Int) : ∀ c ∈ exponentText e, isPlain c = true := by
  unfold exponentText
  simp only [List.cons_append, List.forall_mem_cons, List.forall_mem_append]
  refine ⟨rfl, ?_, isPlain_of_mem_zeros, fun c => isPlain_of_mem_toDigits⟩
  split <;> rfl

theorem isPlain_of_mem_text {d : Digits} (digits : ∀ c ∈ d.digits, isPlain c = true) :
    ∀ c ∈ d.text, isPlain c = true := by
  have taken (n : Nat) : ∀ c ∈ d.digits.take n, isPlain c = true := fun c member =>
    digits c (List.mem_of_mem_take member)
  have dropped (n : Nat) : ∀ c ∈ d.digits.drop n, isPlain c = true := fun c member =>
    digits c (List.mem_of_mem_drop member)
  have point : isPlain '.' = true := rfl
  have zero : isPlain '0' = true := rfl
  unfold text
  simp only
  split
  · split
    · simpa [or_imp, forall_and, point, zero] using ⟨fun c => isPlain_of_mem_zeros c, digits⟩
    · split
      · exact List.forall_mem_append.mpr ⟨taken _, List.forall_mem_cons.mpr ⟨point, dropped _⟩⟩
      · refine List.forall_mem_append.mpr ⟨List.forall_mem_append.mpr ⟨digits, isPlain_of_mem_zeros⟩, ?_⟩
        simp [point, zero]
  · refine List.forall_mem_append.mpr ⟨List.forall_mem_append.mpr ⟨taken 1, ?_⟩, isPlain_of_mem_exponentText _⟩
    split
    · simp
    · next rest more =>
      exact List.forall_mem_cons.mpr ⟨point, dropped 1⟩

end Digits

namespace Finite

theorem isPlain_text (x : Finite) : IsPlain x.text := by
  have size : ∀ c ∈ (if x.significand = 0 then ['0', '.', '0'] else (Digits.shortest x).text),
      isPlain c = true := by
    split
    · exact List.forall_mem_cons.mpr ⟨rfl, List.forall_mem_cons.mpr ⟨rfl, List.forall_mem_singleton.mpr rfl⟩⟩
    · exact Digits.isPlain_of_mem_text (Digits.isPlain_of_mem_shortest x)
  refine isPlain_ofList.mpr ?_
  split
  · exact List.forall_mem_cons.mpr ⟨rfl, size⟩
  · exact size

theorem isPlain_plain (x : Finite) : IsPlain x.plain := by
  unfold plain
  split
  · exact isPlain_toString _
  · exact x.isPlain_text

end Finite

theorem Length.isPlain_finiteText (x : Finite) : IsPlain (finiteText x) := by
  unfold finiteText
  split
  · exact (isPlain_toString _).append (by decide)
  · exact (Finite.isPlain_text _).append (by decide)

end Clipping

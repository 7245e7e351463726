import Clipping.Proofs.Color.Hexadecimal
import Clipping.Proofs.Number.Written

/-! How an alpha counts, however its figures are rounded. From one on, or from a hundred percent, it
is opaque; up to 0.99, or 99 percent, it is a part of 255. -/
namespace Clipping

theorem power_zero : power 2 0 = 1 := by rw [power_two, zpow_zero]

namespace Decimal.Figures

variable {f : Figures} {m : Nat} {e : Int}

theorem ranged_rounded (f : Figures) (negative : Bool) : Binary64.Ranged negative (f.rounded negative) :=
  Binary64.ranged_ofRatio negative _ (Nat.pow_pos (by decide))

theorem power_le_rounded {y : Finite} (small : m < 2 ^ 53) (low : -1074 ≤ e) (bounded : m * power 2 e ≤ f.value)
    (rounded : f.rounded false = .finite y) : m * power 2 e ≤ y.value := by
  have ranged := f.ranged_rounded false
  rw [rounded] at ranged
  rw [Finite.value_of_positive ranged.negative]
  refine Binary64.power_le_ofRatio (Nat.pow_pos (by decide)) small low ?_ rounded
  rw [Nat.cast_pow, Nat.cast_ofNat]
  exact (le_div_iff₀ (by positivity)).mp bounded

theorem exists_rounded_le (small : m < 2 ^ 53) (low : -1074 ≤ e) (high : e ≤ 970)
    (bounded : f.value ≤ m * power 2 e) :
    ∃ y, f.rounded false = .finite y ∧ y.negative = false ∧ y.value ≤ m * power 2 e := by
  have quotient : (Text.decimalNat f.digits : Rat) ≤ m * power 2 e * (10 ^ (f.places.getD []).length : Nat) := by
    rw [Nat.cast_pow, Nat.cast_ofNat]
    exact (div_le_iff₀ (by positivity)).mp bounded
  obtain ⟨y, rounded, sign, size⟩ :=
    Binary64.exists_ofRatio_le_power false (Nat.pow_pos (by decide)) small low high quotient
  refine ⟨y, rounded, sign, ?_⟩
  rwa [Finite.value_of_positive sign]

end Decimal.Figures

namespace Color.Alpha

open Decimal (Figures)

def written (f : Figures) (percent : Bool) : Rat := if percent then f.value / 100 else f.value

def number (f : Figures) (percent : Bool) : Binary64 :=
  match f.rounded false with
  | .finite x => if percent then x.div ⟨false, 100, 0⟩ else .finite x
  | x => x

theorem read_text (f : Figures) (percent : Bool) : read f.text percent = ofNumber (number f percent) := by
  unfold read number
  rw [f.read_text]
  cases f.rounded false with
  | nan => rfl
  | infinite negative => rfl
  | finite x => rfl

theorem read_text_ne (f : Figures) (percent : Bool) : read f.text percent ≠ .malformed := by
  rw [read_text]
  unfold ofNumber
  split
  · split
    · nofun
    · split
      · nofun
      · nofun
  · nofun

variable {f : Figures} {percent : Bool}

theorem value_100 : (⟨false, 100, 0⟩ : Finite).value = 100 := by
  simp [Finite.value, Finite.magnitude, power]

theorem abs_hundredth {x : Finite} (sign : x.negative = false) :
    |x.value / (⟨false, 100, 0⟩ : Finite).value| = x.value / 100 := by
  rw [value_100, abs_of_nonneg (div_nonneg (Finite.value_nonneg sign) (by norm_num))]

theorem negative_hundredth {x y : Finite} (sign : x.negative = false)
    (divided : x.div ⟨false, 100, 0⟩ = .finite y) : y.negative = false := by
  have ranged := @Finite.ranged_div x ⟨false, 100, 0⟩ sign rfl
  rw [divided] at ranged
  exact ranged.negative

/-- A full alpha is not read as less. -/
theorem one_le_number {y : Finite} (full : 1 ≤ written f percent) (read : number f percent = .finite y) :
    1 ≤ y.value := by
  have ranged := f.ranged_rounded false
  unfold number at read
  cases rounded : f.rounded false with
  | nan => simp [rounded] at read
  | infinite negative => simp [rounded] at read
  | finite x =>
    rw [rounded] at read ranged
    cases percent with
    | false =>
      obtain rfl := Binary64.finite.inj read
      have reached := Figures.power_le_rounded (m := 1) (e := 0) (by decide) (by decide)
        (by simpa [power_zero, written] using full) rounded
      simpa [power_zero] using reached
    | true =>
      have hundred : (100 : Nat) * power 2 0 ≤ f.value := by
        have part : 1 ≤ f.value / 100 := full
        rw [power_zero]
        push_cast
        linarith
      have reached := Figures.power_le_rounded (by decide) (by decide) hundred rounded
      have above : (1 : Nat) * power 2 0 ≤ |x.value / (⟨false, 100, 0⟩ : Finite).value| := by
        rw [power_zero] at reached ⊢
        rw [abs_hundredth ranged.negative]
        push_cast at reached ⊢
        linarith
      have divided : x.div ⟨false, 100, 0⟩ = .finite y := read
      have size := Binary64.power_le_ofRat (by decide) (by decide) above divided
      rw [Finite.value_of_positive (negative_hundredth ranged.negative divided)]
      simpa [power_zero] using size

/-- Between 0.99 and one there is a number that needs no rounding. -/
theorem hundredths_le : (99 / 100 : Rat) ≤ (127 : Nat) * power 2 (-7) ∧ (127 : Nat) * power 2 (-7) < 1 := by
  rw [power_two]
  norm_num

theorem exists_number_lt (less : written f percent ≤ 99 / 100) :
    ∃ y, number f percent = .finite y ∧ y.negative = false ∧ y.value < 1 := by
  obtain ⟨most, below⟩ := hundredths_le
  unfold number
  cases percent with
  | false =>
    obtain ⟨x, rounded, sign, size⟩ := Figures.exists_rounded_le (by decide) (by decide) (by decide)
      (le_trans less most)
    exact ⟨x, by simp [rounded], sign, size.trans_lt below⟩
  | true =>
    have bounded : f.value ≤ (99 : Nat) * power 2 0 := by
      have part : f.value / 100 ≤ 99 / 100 := less
      rw [power_zero]
      push_cast
      linarith
    obtain ⟨x, rounded, sign, size⟩ := Figures.exists_rounded_le (by decide) (by decide) (by decide) bounded
    have part : |x.value / (⟨false, 100, 0⟩ : Finite).value| ≤ (127 : Nat) * power 2 (-7) := by
      rw [abs_hundredth sign]
      refine le_trans ?_ most
      rw [power_zero] at size
      push_cast at size
      linarith
    obtain ⟨y, found, limit⟩ := Binary64.exists_ofRat_le_power (x.negative != false) (by decide) (by decide)
      (by decide) part
    have divided : x.div ⟨false, 100, 0⟩ = .finite y := found
    have positive := negative_hundredth sign divided
    refine ⟨y, by simp [rounded, divided], positive, ?_⟩
    rw [Finite.value_of_positive positive]
    exact limit.trans_lt below

theorem read_of_ge (full : 1 ≤ written f percent) : read f.text percent = .opaqueAlpha := by
  rw [read_text]
  cases own : number f percent with
  | nan => rfl
  | infinite negative => rfl
  | finite y => exact if_pos (one_le_number full own)

theorem exists_read (less : written f percent ≤ 99 / 100) : ∃ n, read f.text percent = .part n := by
  obtain ⟨x, own, sign, below⟩ := exists_number_lt less
  have positive := Finite.value_nonneg sign
  have bounded : |x.value * 255| ≤ (255 : Nat) := by
    rw [abs_of_nonneg (by linarith)]
    push_cast
    linarith
  obtain ⟨y, rounded, -⟩ := Binary64.exists_ofRat_le (x.negative != false) bounded (by decide)
  refine ⟨y.nearestInt.toNat, ?_⟩
  rw [read_text, own]
  simp only [ofNumber, Finite.mul, value_255, if_neg (not_le.mpr below), rounded]

end Color.Alpha

end Clipping

import Clipping.Number.Binary64
import Mathlib.Algebra.Order.Field.Power
import Mathlib.Algebra.Order.Field.Rat
import Mathlib.Data.Nat.Log
import Mathlib.Tactic.Linarith
import Mathlib.Tactic.Positivity
import Mathlib.Tactic.Ring

/-! How far rounding moves a number. A quotient within the range is rounded to a finite number,
and one that is at most a small integer to a number that is at most that integer. -/
namespace Clipping

theorem nearest_le {n d k : Nat} (bounded : n ≤ k * d) : nearest n d ≤ k := by
  unfold nearest
  rcases Nat.eq_zero_or_pos d with rfl | positive
  · obtain rfl : n = 0 := by omega
    exact Nat.zero_le k
  · have whole : n / d ≤ k := Nat.div_le_of_le_mul (by rwa [Nat.mul_comm])
    have parts := Nat.div_add_mod n d
    simp only [Bool.or_eq_true, Bool.and_eq_true, decide_eq_true_eq, beq_iff_eq]
    split
    · exact whole
    · next up =>
      rcases Nat.lt_or_ge (n / d) k with below | above
      · exact below
      · have same : n / d = k := le_antisymm whole above
        have none : n % d = 0 := by
          rw [same, Nat.mul_comm] at parts
          omega
        exact absurd (.inl (by omega)) up

theorem power_eq (base : Nat) (e : Int) : power base e = (base : Rat) ^ e := by
  unfold power
  split
  · next positive =>
    obtain ⟨n, rfl⟩ := Int.eq_ofNat_of_zero_le positive
    simp
  · next negative =>
    obtain ⟨n, rfl⟩ : ∃ n : Nat, e = -n := ⟨(-e).toNat, by omega⟩
    simp

theorem power_pos (e : Int) : 0 < power 2 e := by
  rw [power_eq]
  positivity

theorem power_two (e : Int) : power 2 e = (2 : Rat) ^ e := by
  rw [power_eq, Nat.cast_ofNat]

theorem power_succ (e : Int) : power 2 (e + 1) = 2 * power 2 e := by
  rw [power_two, power_two, zpow_add_one₀ (by decide), mul_comm]

theorem power_le {a b : Int} (le : a ≤ b) : power 2 a ≤ power 2 b := by
  rw [power_two, power_two]
  exact zpow_le_zpow_right₀ (by norm_num) le

/-- Both terms of a quotient in units are scaled alike. -/
theorem exists_scaled (n d : Nat) (e : Int) : ∃ r : Rat, 0 < r ∧ ((scaled n d e).1 : Rat) = n * r ∧
    ((scaled n d e).2 : Rat) = power 2 e * d * r := by
  rw [power_two]
  unfold scaled
  split
  · next whole =>
    obtain ⟨j, rfl⟩ := Int.eq_ofNat_of_zero_le whole
    refine ⟨1, by norm_num, by simp, ?_⟩
    push_cast [Int.toNat_natCast, zpow_natCast, Nat.pow_eq]
    rw [mul_one, mul_comm]
  · obtain ⟨j, rfl⟩ : ∃ j : Nat, e = -j := ⟨(-e).toNat, by omega⟩
    refine ⟨2 ^ j, by positivity, by simp, ?_⟩
    rw [zpow_neg, zpow_natCast, mul_right_comm, inv_mul_cancel₀ (by positivity), one_mul]

variable {n d c : Nat} {e : Int}

theorem scaled_lt_iff : (scaled n d e).1 < c * (scaled n d e).2 ↔ (n : Rat) < c * power 2 e * d := by
  obtain ⟨r, positive, numerator, denominator⟩ := exists_scaled n d e
  rw [← Nat.cast_lt (α := Rat), Nat.cast_mul, numerator, denominator, ← mul_assoc, ← mul_assoc]
  exact mul_lt_mul_iff_of_pos_right positive

theorem scaled_le_iff : (scaled n d e).1 ≤ c * (scaled n d e).2 ↔ (n : Rat) ≤ c * power 2 e * d := by
  obtain ⟨r, positive, numerator, denominator⟩ := exists_scaled n d e
  rw [← Nat.cast_le (α := Rat), Nat.cast_mul, numerator, denominator, ← mul_assoc, ← mul_assoc]
  exact mul_le_mul_iff_of_pos_right positive

namespace Finite

theorem magnitude_nonneg (x : Finite) : 0 ≤ x.magnitude :=
  mul_nonneg (Nat.cast_nonneg _) (power_pos _).le

theorem magnitude_zero (negative : Bool) : (zero negative).magnitude = 0 := by
  simp [magnitude, zero]

theorem abs_value (x : Finite) : |x.value| = x.magnitude := by
  unfold value
  split
  · rw [abs_neg, abs_of_nonneg x.magnitude_nonneg]
  · exact abs_of_nonneg x.magnitude_nonneg

theorem value_of_positive {x : Finite} (sign : x.negative = false) : x.value = x.magnitude := by
  rw [value, if_neg (by simp [sign])]

theorem value_nonneg {x : Finite} (sign : x.negative = false) : 0 ≤ x.value := by
  rw [value_of_positive sign]
  exact x.magnitude_nonneg

theorem value_zero (negative : Bool) : (zero negative).value = 0 := by
  rw [← abs_eq_zero, abs_value, magnitude_zero]

def largest : Rat := (2 ^ 53 - 1 : Nat) * power 2 971

/-- What is at most the largest number; each rounded number is. -/
def IsWithin (x : Finite) : Prop := x.magnitude ≤ largest

theorem largest_nonneg : 0 ≤ largest := mul_nonneg (Nat.cast_nonneg _) (power_pos _).le

theorem exists_largest : ∃ k : Nat, largest = k := by
  refine ⟨(2 ^ 53 - 1) * 2 ^ 971, ?_⟩
  rw [largest, power_two, Nat.cast_mul, Nat.cast_pow 2 971, Nat.cast_ofNat, ← zpow_natCast]
  rfl

theorem largest_lt : largest < power 2 1024 := by
  calc largest < (2 ^ 53 : Nat) * power 2 971 :=
        mul_lt_mul_of_pos_right (Nat.cast_lt.mpr (by decide)) (power_pos _)
    _ = power 2 1024 := by
      rw [power_two, power_two, Nat.cast_pow, Nat.cast_ofNat, ← zpow_natCast, ← zpow_add₀ (by norm_num)]
      congr 1

theorem isWithin_zero (negative : Bool) : (zero negative).IsWithin := by
  rw [IsWithin, magnitude_zero]
  exact largest_nonneg

end Finite

namespace Binary64

def exponentOf (n d : Nat) : Int :=
  let guess : Int := (n.log2 : Int) - d.log2 - 52
  max (if (scaled n d guess).1 < Nat.pow 2 52 * (scaled n d guess).2 then guess - 1 else guess) (-1074)

/-- A number from a significand, which may be one too many, and an exponent. -/
def pack (negative : Bool) (m : Nat) (e : Int) : Binary64 :=
  let (m, e) := if m = Nat.pow 2 53 then (Nat.pow 2 52, e + 1) else (m, e)
  if e > 971 then .infinite negative
  else if m = 0 then .finite (.zero negative)
  else .finite ⟨negative, m, e⟩

theorem ofRatio_zero (negative : Bool) (d : Nat) : ofRatio negative 0 d = .finite (.zero negative) := rfl

theorem ofRatio_eq (negative : Bool) {n : Nat} (d : Nat) (nonzero : n ≠ 0) :
    ofRatio negative n d = pack negative
      (nearest (scaled n d (exponentOf n d)).1 (scaled n d (exponentOf n d)).2) (exponentOf n d) := by
  rw [ofRatio, if_neg nonzero]
  rfl

/-- What is packed to a finite number keeps its sign and its size. -/
theorem pack_eq_finite {negative : Bool} {m : Nat} {e : Int} {y : Finite} (packed : pack negative m e = .finite y) :
    y.negative = negative ∧ y.magnitude = m * power 2 e := by
  unfold pack at packed
  by_cases carry : m = Nat.pow 2 53
  · simp only [if_pos carry] at packed
    split at packed
    · cases packed
    · rw [if_neg (by decide)] at packed
      cases packed
      refine ⟨rfl, ?_⟩
      rw [Finite.magnitude, power_succ, carry]
      norm_num
      ring
  · simp only [if_neg carry] at packed
    split at packed
    · cases packed
    · split at packed
      · next none =>
        cases packed
        exact ⟨rfl, by simp [Finite.magnitude_zero, none]⟩
      · cases packed
        exact ⟨rfl, rfl⟩

theorem pack_of_le (negative : Bool) (m : Nat) {e : Int} (inside : e ≤ 970) :
    ∃ y, pack negative m e = .finite y ∧ y.negative = negative ∧ y.magnitude = m * power 2 e := by
  obtain ⟨y, packed⟩ : ∃ y, pack negative m e = .finite y := by
    by_cases carry : m = Nat.pow 2 53
    · refine ⟨⟨negative, Nat.pow 2 52, e + 1⟩, ?_⟩
      simp only [pack, if_pos carry]
      rw [if_neg (by omega), if_neg (by decide)]
    · have inside : ¬e > 971 := by omega
      by_cases none : m = 0
      · exact ⟨.zero negative, by simp only [pack, if_neg carry, if_neg inside, if_pos none]⟩
      · exact ⟨⟨negative, m, e⟩, by simp only [pack, if_neg carry, if_neg inside, if_neg none]⟩
  exact ⟨y, packed, pack_eq_finite packed⟩

/-- The range ends with the last significand of the last exponent. -/
theorem exists_pack (negative : Bool) {m : Nat} {e : Int} (small : m < 2 ^ 53) (inside : e ≤ 971) :
    ∃ y, pack negative m e = .finite y := by
  have carry : ¬m = Nat.pow 2 53 := by
    rw [Nat.pow_eq]
    exact small.ne
  have inside : ¬e > 971 := by omega
  unfold pack
  simp only [if_neg carry, if_neg inside]
  split
  · exact ⟨_, rfl⟩
  · exact ⟨_, rfl⟩

/-- A number of the given sign that is within the range if it is finite. -/
inductive Ranged (negative : Bool) : Binary64 → Prop
  | infinite : Ranged negative (.infinite negative)
  | finite {x : Finite} (sign : x.negative = negative) (within : x.IsWithin) : Ranged negative (.finite x)

theorem Ranged.negative {negative : Bool} {x : Finite} : Ranged negative (.finite x) → x.negative = negative
  | .finite sign _ => sign

theorem Ranged.within {negative : Bool} {x : Finite} : Ranged negative (.finite x) → x.IsWithin
  | .finite _ within => within

theorem ranged_pack (negative : Bool) {m : Nat} (e : Int) (bounded : m ≤ 2 ^ 53) :
    Ranged negative (pack negative m e) := by
  have within {m : Nat} {e : Int} (small : m ≤ 2 ^ 53 - 1) (inside : e ≤ 971) :
      (⟨negative, m, e⟩ : Finite).IsWithin :=
    mul_le_mul (Nat.cast_le.mpr small) (power_le inside) (power_pos _).le (Nat.cast_nonneg _)
  unfold pack
  by_cases carry : m = Nat.pow 2 53
  · simp only [if_pos carry]
    split
    · exact .infinite
    · rw [if_neg (by decide)]
      exact .finite rfl (within (by decide) (by omega))
  · simp only [if_neg carry]
    rw [Nat.pow_eq] at carry
    split
    · exact .infinite
    · split
      · exact .finite rfl (Finite.isWithin_zero negative)
      · exact .finite rfl (within (by omega) (by omega))

theorem exponentOf_le {n d : Nat} {k : Int} (written : n ≠ 0) (bounded : (n : Rat) < power 2 k * d) :
    exponentOf n d ≤ max (k - 53) (-1074) := by
  rw [power_two] at bounded
  have low : (2 : Rat) ^ (n.log2 : Int) ≤ n := by exact_mod_cast Nat.log2_self_le written
  have high : (d : Rat) ≤ 2 ^ (d.log2 + 1 : Int) := by exact_mod_cast (Nat.lt_log2_self).le
  have logs : (n.log2 : Int) < k + (d.log2 + 1) := by
    refine (zpow_lt_zpow_iff_right₀ (a := (2 : Rat)) (by norm_num)).mp ?_
    calc (2 : Rat) ^ (n.log2 : Int) ≤ n := low
      _ < 2 ^ k * d := bounded
      _ ≤ 2 ^ k * 2 ^ (d.log2 + 1 : Int) := mul_le_mul_of_nonneg_left high (by positivity)
      _ = 2 ^ (k + (d.log2 + 1)) := (zpow_add₀ (by norm_num) k _).symm
  unfold exponentOf
  simp only [Nat.pow_eq, scaled_lt_iff]
  split
  · omega
  · next above =>
    -- The quotient has the bit that the guess gives it, so the guess is below the bound.
    have guess : (n.log2 - d.log2 - 52 + 52 : Int) < k := by
      refine (zpow_lt_zpow_iff_right₀ (a := (2 : Rat)) (by norm_num)).mp ?_
      rw [zpow_add₀ (by norm_num), mul_comm]
      refine lt_of_mul_lt_mul_right (lt_of_le_of_lt ?_ bounded) (Nat.cast_nonneg d)
      push_cast [power_two] at above
      exact_mod_cast not_lt.mp above
    omega

/-- A quotient is below the number that follows the significands of its exponent. -/
theorem lt_power_exponentOf {n d : Nat} (positive : 0 < d) :
    (n : Rat) < (2 ^ 53 : Nat) * power 2 (exponentOf n d) * d := by
  have low : (2 : Rat) ^ (d.log2 : Int) ≤ d := by exact_mod_cast Nat.log2_self_le positive.ne'
  have high : (n : Rat) < 2 ^ (n.log2 + 1 : Int) := by exact_mod_cast Nat.lt_log2_self
  have guessed : (n : Rat) < (2 ^ 53 : Nat) * power 2 (n.log2 - d.log2 - 52) * d := by
    calc (n : Rat) < 2 ^ (n.log2 + 1 : Int) := high
      _ = (2 ^ 53 : Nat) * power 2 (n.log2 - d.log2 - 52) * 2 ^ (d.log2 : Int) := by
        rw [power_two, Nat.cast_pow, Nat.cast_ofNat, ← zpow_natCast, ← zpow_add₀ (by norm_num),
          ← zpow_add₀ (by norm_num)]
        congr 1
        omega
      _ ≤ (2 ^ 53 : Nat) * power 2 (n.log2 - d.log2 - 52) * d :=
        mul_le_mul_of_nonneg_left low (mul_nonneg (Nat.cast_nonneg _) (power_pos _).le)
  have raised {e : Int} (le : e ≤ exponentOf n d) (below : (n : Rat) < (2 ^ 53 : Nat) * power 2 e * d) :
      (n : Rat) < (2 ^ 53 : Nat) * power 2 (exponentOf n d) * d := by
    refine lt_of_lt_of_le below (mul_le_mul_of_nonneg_right ?_ (Nat.cast_nonneg d))
    exact mul_le_mul_of_nonneg_left (power_le le) (Nat.cast_nonneg _)
  by_cases below : (n : Rat) < (2 ^ 52 : Nat) * power 2 (n.log2 - d.log2 - 52) * d
  · refine raised (e := n.log2 - d.log2 - 52 - 1) ?_ ?_
    · unfold exponentOf
      simp only [Nat.pow_eq, scaled_lt_iff, if_pos below]
      exact le_max_left _ _
    · have twice := power_succ (n.log2 - d.log2 - 52 - 1)
      rw [sub_add_cancel] at twice
      rw [twice] at below
      calc (n : Rat) < _ := below
        _ = _ := by push_cast; ring
  · refine raised (e := n.log2 - d.log2 - 52) ?_ guessed
    unfold exponentOf
    simp only [Nat.pow_eq, scaled_lt_iff, if_neg below]
    exact le_max_left _ _

/-- A quotient within the range is rounded to a finite number. -/
theorem exists_ofRatio (negative : Bool) {n d : Nat} (positive : 0 < d)
    (bounded : (n : Rat) ≤ Finite.largest * d) : ∃ y, ofRatio negative n d = .finite y := by
  rcases Nat.eq_zero_or_pos n with rfl | written
  · exact ⟨_, ofRatio_zero negative d⟩
  · rw [ofRatio_eq negative d written.ne']
    have divisor : (0 : Rat) < d := Nat.cast_pos.mpr positive
    have below : (n : Rat) < power 2 1024 * d := by
      exact lt_of_le_of_lt bounded (mul_lt_mul_of_pos_right Finite.largest_lt divisor)
    have exponent := exponentOf_le written.ne' below
    rcases lt_or_ge (exponentOf n d) 971 with inner | last
    · obtain ⟨y, packed, -⟩ := pack_of_le negative
        (nearest (scaled n d (exponentOf n d)).1 (scaled n d (exponentOf n d)).2)
        (e := exponentOf n d) (by omega)
      exact ⟨y, packed⟩
    · have last : exponentOf n d = 971 := by omega
      rw [last]
      have significand := nearest_le (scaled_le_iff.mpr bounded)
      exact exists_pack negative (by omega) le_rfl

/-- Rounding keeps the sign and stays within the range. -/
theorem ranged_ofRatio (negative : Bool) (n : Nat) {d : Nat} (positive : 0 < d) :
    Ranged negative (ofRatio negative n d) := by
  rcases Nat.eq_zero_or_pos n with rfl | written
  · exact .finite rfl (Finite.isWithin_zero negative)
  · rw [ofRatio_eq negative d written.ne']
    exact ranged_pack negative _ (nearest_le (scaled_lt_iff.mpr (lt_power_exponentOf positive)).le)

/-- Units of the larger exponent are whole numbers of the smaller one's. -/
theorem power_raised {e f : Int} (le : e ≤ f) (m : Nat) :
    (m * 2 ^ (f - e).toNat : Nat) * power 2 e = m * power 2 f := by
  obtain ⟨j, rfl⟩ : ∃ j : Nat, f = e + j := ⟨(f - e).toNat, by omega⟩
  have count : (e + j - e).toNat = j := by omega
  rw [count, power_two, power_two, zpow_add₀ (by norm_num), zpow_natCast]
  push_cast
  ring

/-- The significand of a quotient, in units of which a whole number make one of the bound. -/
theorem nearest_scaled_le {n d m : Nat} {e f : Int} (bounded : (n : Rat) ≤ m * power 2 f * d) (le : e ≤ f) :
    nearest (scaled n d e).1 (scaled n d e).2 * power 2 e ≤ m * power 2 f := by
  rw [← power_raised le m] at bounded ⊢
  exact mul_le_mul_of_nonneg_right (Nat.cast_le.mpr (nearest_le (scaled_le_iff.mpr bounded))) (power_pos e).le

/-- A quotient that is at most a number of 53 bits is rounded to a number that is at most it. -/
theorem exists_ofRatio_le_power (negative : Bool) {n d m : Nat} {f : Int} (positive : 0 < d) (small : m < 2 ^ 53)
    (low : -1074 ≤ f) (high : f ≤ 970) (bounded : (n : Rat) ≤ m * power 2 f * d) :
    ∃ y, ofRatio negative n d = .finite y ∧ y.negative = negative ∧ y.magnitude ≤ m * power 2 f := by
  rcases Nat.eq_zero_or_pos n with rfl | written
  · refine ⟨_, ofRatio_zero negative d, rfl, ?_⟩
    rw [Finite.magnitude_zero]
    exact mul_nonneg (Nat.cast_nonneg _) (power_pos f).le
  · have divisor : (0 : Rat) < d := Nat.cast_pos.mpr positive
    have below : (n : Rat) < power 2 (f + 53) * d := by
      refine lt_of_le_of_lt bounded (mul_lt_mul_of_pos_right ?_ divisor)
      calc m * power 2 f < (2 ^ 53 : Nat) * power 2 f :=
            mul_lt_mul_of_pos_right (Nat.cast_lt.mpr small) (power_pos f)
        _ = power 2 (f + 53) := by
          rw [power_two, power_two, zpow_add₀ (by norm_num), mul_comm]
          norm_num
    have exponent : exponentOf n d ≤ f := by
      have limit := exponentOf_le written.ne' below
      omega
    obtain ⟨y, packed, sign, size⟩ := pack_of_le negative
      (nearest (scaled n d (exponentOf n d)).1 (scaled n d (exponentOf n d)).2)
      (e := exponentOf n d) (by omega)
    refine ⟨y, by rw [ofRatio_eq negative d written.ne', packed], sign, ?_⟩
    rw [size]
    exact nearest_scaled_le bounded exponent

/-- A quotient that is at most a small integer is rounded to a number that is at most it. -/
theorem exists_ofRatio_le (negative : Bool) {n d k : Nat} (positive : 0 < d) (bounded : n ≤ k * d)
    (small : k < 2 ^ 52) :
    ∃ y, ofRatio negative n d = .finite y ∧ y.negative = negative ∧ y.magnitude ≤ k := by
  have one : power 2 0 = 1 := by rw [power_two, zpow_zero]
  have above : (n : Rat) ≤ k * power 2 0 * d := by
    rw [one, mul_one]
    exact_mod_cast bounded
  obtain ⟨y, rounded, sign, most⟩ :=
    exists_ofRatio_le_power negative positive (by omega) (by decide) (by decide) above
  rw [one, mul_one] at most
  exact ⟨y, rounded, sign, most⟩

theorem natAbs_num_eq (q : Rat) : (q.num.natAbs : Rat) = |q| * q.den := by
  rw [Nat.cast_natAbs, Int.cast_abs, ← Rat.mul_den_eq_num, abs_mul, Nat.abs_cast]

theorem natAbs_num_le {q : Rat} {k : Nat} (bounded : |q| ≤ k) : q.num.natAbs ≤ k * q.den := by
  have positive : (0 : Rat) < q.den := by exact_mod_cast q.den_pos
  have size := mul_le_mul_of_nonneg_right bounded positive.le
  rw [← natAbs_num_eq] at size
  exact_mod_cast size

theorem ranged_ofRat (negative : Bool) (q : Rat) :
    Ranged (if q = 0 then negative else q < 0) (ofRat negative q) :=
  ranged_ofRatio _ _ q.den_pos

theorem exists_ofRat (negative : Bool) {q : Rat} (bounded : |q| ≤ Finite.largest) :
    ∃ y, ofRat negative q = .finite y := by
  refine exists_ofRatio _ q.den_pos ?_
  rw [natAbs_num_eq]
  exact mul_le_mul_of_nonneg_right bounded (Nat.cast_nonneg _)

theorem exists_ofRat_le (negative : Bool) {q : Rat} {k : Nat} (bounded : |q| ≤ k) (small : k < 2 ^ 52) :
    ∃ y, ofRat negative q = .finite y ∧ y.negative = (if q = 0 then negative else q < 0) ∧
      y.magnitude ≤ k :=
  exists_ofRatio_le _ q.den_pos (natAbs_num_le bounded) small

end Binary64

namespace Finite

theorem ranged_div {x y : Finite} (sign : x.negative = false) (positive : y.negative = false) :
    Binary64.Ranged false (x.div y) := by
  have ranged := Binary64.ranged_ofRat (x.negative != y.negative) (x.value / y.value)
  have above : 0 ≤ x.value / y.value := div_nonneg (value_nonneg sign) (value_nonneg positive)
  have same : (if x.value / y.value = 0 then x.negative != y.negative else decide (x.value / y.value < 0)) = false := by
    rw [sign, positive, decide_eq_false (not_lt.mpr above)]
    split
    · rfl
    · rfl
  rw [same] at ranged
  exact ranged

theorem nearestInt_le {x : Finite} {k : Nat} (bounded : x.magnitude ≤ k) : x.nearestInt ≤ k := by
  rw [← abs_of_nonneg x.magnitude_nonneg] at bounded
  have below := nearest_le (Binary64.natAbs_num_le bounded)
  unfold nearestInt
  simp only
  split
  · omega
  · omega

end Finite

end Clipping

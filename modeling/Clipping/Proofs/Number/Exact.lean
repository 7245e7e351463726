import Clipping.Proofs.Number.Rounding

/-! Rounding keeps the order of quotients and numbers. A quotient that is at least a number of 53
bits is not rounded below it, so that such a number is kept; quotients beyond either end of the range
become infinite, and zero. -/
namespace Clipping

/-- An integer below the quotient is below the nearest integer too. -/
theorem le_nearest {n d k : Nat} (positive : 0 < d) (bounded : k * d ≤ n) : k ≤ nearest n d := by
  have whole : k ≤ n / d := (Nat.le_div_iff_mul_le positive).mpr bounded
  unfold nearest
  simp only
  split
  · exact whole
  · omega

namespace Binary64

variable {n d m : Nat} {e f : Int} {negative : Bool}

theorem scaled_pos (positive : 0 < d) : 0 < (scaled n d e).2 := by
  obtain ⟨r, factor, -, denominator⟩ := exists_scaled n d e
  have unit := power_pos e
  have divisor : (0 : Rat) < d := Nat.cast_pos.mpr positive
  rw [← Nat.cast_pos (α := Rat), denominator]
  positivity

theorem le_nearest_scaled (positive : 0 < d) (bounded : m * power 2 f * d ≤ (n : Rat)) (le : e ≤ f) :
    m * power 2 f ≤ nearest (scaled n d e).1 (scaled n d e).2 * power 2 e := by
  rw [← power_raised le m] at bounded ⊢
  have reached := not_lt.mp (mt scaled_lt_iff.mp (not_lt.mpr bounded))
  have significand := le_nearest (scaled_pos positive) reached
  exact mul_le_mul_of_nonneg_right (Nat.cast_le.mpr significand) (power_pos e).le

/-- Above the least exponent, a significand has all 53 bits. -/
theorem power_exponentOf_le (written : n ≠ 0) (inside : -1074 < exponentOf n d) :
    (2 ^ 52 : Nat) * power 2 (exponentOf n d) * d ≤ n := by
  have low : (2 : Rat) ^ (n.log2 : Int) ≤ n := by exact_mod_cast Nat.log2_self_le written
  have high : (d : Rat) ≤ 2 ^ (d.log2 + 1 : Int) := by exact_mod_cast (Nat.lt_log2_self).le
  unfold exponentOf at inside ⊢
  simp only [Nat.pow_eq, scaled_lt_iff] at inside ⊢
  by_cases below : (n : Rat) < (2 ^ 52 : Nat) * power 2 (n.log2 - d.log2 - 52) * d
  · simp only [if_pos below] at inside ⊢
    rw [max_eq_left (by omega)]
    calc (2 ^ 52 : Nat) * power 2 (n.log2 - d.log2 - 52 - 1) * d
        ≤ (2 ^ 52 : Nat) * power 2 (n.log2 - d.log2 - 52 - 1) * 2 ^ (d.log2 + 1 : Int) :=
          mul_le_mul_of_nonneg_left high (mul_nonneg (Nat.cast_nonneg _) (power_pos _).le)
      _ = 2 ^ (n.log2 : Int) := by
        rw [power_two, Nat.cast_pow, Nat.cast_ofNat, ← zpow_natCast, ← zpow_add₀ (by norm_num),
          ← zpow_add₀ (by norm_num)]
        congr 1
        omega
      _ ≤ n := low
  · simp only [if_neg below] at inside ⊢
    rw [max_eq_left (by omega)]
    exact not_lt.mp below

/-- A quotient that is at least a number of 53 bits is rounded to a number that is at least it. -/
theorem power_le_ofRatio {y : Finite} (positive : 0 < d) (small : m < 2 ^ 53) (low : -1074 ≤ f)
    (bounded : m * power 2 f * d ≤ (n : Rat)) (rounded : ofRatio negative n d = .finite y) :
    m * power 2 f ≤ y.magnitude := by
  rcases Nat.eq_zero_or_pos n with rfl | written
  · have divisor : (0 : Rat) < d := Nat.cast_pos.mpr positive
    rw [Nat.cast_zero] at bounded
    exact (nonpos_of_mul_nonpos_left bounded divisor).trans y.magnitude_nonneg
  · rw [ofRatio_eq negative d written.ne'] at rounded
    rw [(pack_eq_finite rounded).2]
    rcases le_or_gt (exponentOf n d) f with le | above
    · exact le_nearest_scaled positive bounded le
    · -- In the larger unit every number of 53 bits is above the bound.
      calc m * power 2 f ≤ (2 ^ 53 : Nat) * power 2 (exponentOf n d - 1) :=
            mul_le_mul (Nat.cast_le.mpr small.le) (power_le (by omega)) (power_pos f).le (Nat.cast_nonneg _)
        _ = (2 ^ 52 : Nat) * power 2 (exponentOf n d) := by
          rw [← sub_add_cancel (exponentOf n d) 1, power_succ, sub_add_cancel]
          push_cast
          ring
        _ ≤ _ := le_nearest_scaled positive (power_exponentOf_le written.ne' (by omega)) le_rfl

theorem power_le_ofRat {y : Finite} {q : Rat} (small : m < 2 ^ 53) (low : -1074 ≤ f)
    (bounded : m * power 2 f ≤ |q|) (rounded : ofRat negative q = .finite y) : m * power 2 f ≤ y.magnitude := by
  refine power_le_ofRatio q.den_pos small low ?_ rounded
  rw [natAbs_num_eq]
  exact mul_le_mul_of_nonneg_right bounded (Nat.cast_nonneg _)

theorem exists_ofRat_le_power (negative : Bool) {q : Rat} (small : m < 2 ^ 53) (low : -1074 ≤ f) (high : f ≤ 970)
    (bounded : |q| ≤ m * power 2 f) : ∃ y, ofRat negative q = .finite y ∧ y.magnitude ≤ m * power 2 f := by
  obtain ⟨y, rounded, -, size⟩ := exists_ofRatio_le_power _ q.den_pos small low high
    (by rw [natAbs_num_eq]; exact mul_le_mul_of_nonneg_right bounded (Nat.cast_nonneg _))
  exact ⟨y, rounded, size⟩

/-- A number of 53 bits is kept. -/
theorem ofRatio_exact (negative : Bool) (positive : 0 < d) (small : m < 2 ^ 53) (low : -1074 ≤ f)
    (high : f ≤ 970) (exact : (n : Rat) = m * power 2 f * d) :
    ∃ y, ofRatio negative n d = .finite y ∧ y.negative = negative ∧ y.magnitude = m * power 2 f := by
  obtain ⟨y, rounded, sign, most⟩ := exists_ofRatio_le_power negative positive small low high exact.le
  exact ⟨y, rounded, sign, le_antisymm most (power_le_ofRatio positive small low exact.ge rounded)⟩

/-- So is the number after the last one. -/
theorem ofRatio_exact_le (negative : Bool) (positive : 0 < d) (small : m ≤ 2 ^ 53) (low : -1074 ≤ f)
    (high : f < 970) (exact : (n : Rat) = m * power 2 f * d) :
    ∃ y, ofRatio negative n d = .finite y ∧ y.negative = negative ∧ y.magnitude = m * power 2 f := by
  rcases small.lt_or_eq with inner | rfl
  · exact ofRatio_exact negative positive inner low high.le exact
  · have halved : ((2 ^ 53 : Nat) : Rat) * power 2 f = (2 ^ 52 : Nat) * power 2 (f + 1) := by
      rw [power_succ]
      push_cast
      ring
    rw [halved] at exact ⊢
    exact ofRatio_exact negative positive (by decide) (by omega) (by omega) exact

theorem ofRat_exact (negative : Bool) {q : Rat} (small : m ≤ 2 ^ 53) (low : -1074 ≤ f) (high : f < 970)
    (exact : |q| = m * power 2 f) : ∃ y, ofRat negative q = .finite y ∧ y.value = q := by
  have quotient : (q.num.natAbs : Rat) = m * power 2 f * q.den := by rw [natAbs_num_eq, exact]
  obtain ⟨y, rounded, sign, size⟩ :=
    ofRatio_exact_le (if q = 0 then negative else q < 0) q.den_pos small low high quotient
  refine ⟨y, rounded, ?_⟩
  rw [Finite.value, sign, size, ← exact]
  rcases lt_trichotomy q 0 with below | rfl | above
  · rw [if_neg below.ne, if_pos (decide_eq_true below), abs_of_neg below, neg_neg]
  · simp
  · rw [if_neg above.ne', if_neg (by simpa using above.le), abs_of_pos above]

/-! Beyond the range. -/

theorem pack_of_gt (negative : Bool) (m : Nat) (far : 971 < e) : pack negative m e = .infinite negative := by
  have above : e > 971 := far
  by_cases carry : m = Nat.pow 2 53
  · have next : e + 1 > 971 := by omega
    simp only [pack, if_pos carry, if_pos next]
  · simp only [pack, if_neg carry, if_pos above]

theorem ofRatio_of_ge (negative : Bool) (positive : 0 < d) (above : power 2 1025 * d ≤ (n : Rat)) :
    ofRatio negative n d = .infinite negative := by
  have divisor : (0 : Rat) < d := Nat.cast_pos.mpr positive
  have written : n ≠ 0 := by
    rintro rfl
    have size := mul_pos (power_pos 1025) divisor
    rw [Nat.cast_zero] at above
    linarith
  have far : 971 < exponentOf n d := by
    have below := lt_of_le_of_lt above (lt_power_exponentOf positive)
    have sizes := lt_of_mul_lt_mul_right below divisor.le
    rw [power_two, power_two, Nat.cast_pow, Nat.cast_ofNat, ← zpow_natCast, ← zpow_add₀ (by norm_num)] at sizes
    have exponents := (zpow_lt_zpow_iff_right₀ (by norm_num)).mp sizes
    omega
  rw [ofRatio_eq negative d written, pack_of_gt negative _ far]

/-- A quotient below half of the least number is zero. -/
theorem ofRatio_of_lt (negative : Bool) (below : (n : Rat) < power 2 (-1075) * d) :
    ofRatio negative n d = .finite (.zero negative) := by
  rcases Nat.eq_zero_or_pos n with rfl | written
  · exact ofRatio_zero negative d
  · have least : exponentOf n d = -1074 := by
      have limit := exponentOf_le written.ne' below
      have bound : -1074 ≤ exponentOf n d := le_max_right _ _
      omega
    have half : 2 * (scaled n d (-1074)).1 < (scaled n d (-1074)).2 := by
      obtain ⟨r, factor, numerator, denominator⟩ := exists_scaled n d (-1074)
      have unit : power 2 (-1074) = 2 * power 2 (-1075) := by rw [← power_succ]; rfl
      rw [← Nat.cast_lt (α := Rat), Nat.cast_mul, numerator, denominator, unit]
      push_cast
      nlinarith
    have significand : nearest (scaled n d (-1074)).1 (scaled n d (-1074)).2 = 0 := by
      have whole := Nat.div_eq_of_lt (by omega : (scaled n d (-1074)).1 < (scaled n d (-1074)).2)
      have rest := Nat.mod_eq_of_lt (by omega : (scaled n d (-1074)).1 < (scaled n d (-1074)).2)
      unfold nearest
      simp [whole, rest, half]
    rw [ofRatio_eq negative d written.ne', least, significand]
    rfl

end Binary64

end Clipping

import Clipping.Proofs.Number.Exact
import Clipping.Proofs.Number.Numerals

/-! What numerals are read as. Digits with at most one point among them are read as the number that
is nearest to what they write, and no other text of digits and points is read at all. -/
namespace Clipping

namespace Text

theorem digitValue?_lt {c : Char} {d : Nat} (digit : digitValue? c = some d) : d < 10 := by
  unfold digitValue? at digit
  split at digit
  · split at digit
    · next own =>
      simp only [Char.isDigit, Bool.and_eq_true, decide_eq_true_eq] at own
      have high : c.toNat ≤ 0x39 := own.2
      cases digit
      omega
    · cases digit
  · obtain ⟨base, found, rfl⟩ := Option.map_eq_some_iff.mp digit
    have inside := List.find?_some found
    simp only [Bool.and_eq_true, decide_eq_true_eq] at inside
    omega

theorem foldl_digits (values : List Nat) (n : Nat) :
    values.foldl (fun n d => 10 * n + d) n =
      n * 10 ^ values.length + values.foldl (fun n d => 10 * n + d) 0 := by
  induction values generalizing n with
  | nil => simp
  | cons d values ih =>
    rw [List.foldl_cons, List.foldl_cons, ih (10 * n + d), ih (10 * 0 + d), List.length_cons]
    ring

theorem length_filterMap_digitValue {s : List Char} (digits : ∀ c ∈ s, isDecimal c = true) :
    (s.filterMap digitValue?).length = s.length := by
  induction s with
  | nil => rfl
  | cons c s ih =>
    obtain ⟨own, others⟩ := List.forall_mem_cons.mp digits
    obtain ⟨d, digit⟩ := Option.isSome_iff_exists.mp own
    rw [List.filterMap_cons_some digit, List.length_cons, ih others, List.length_cons]

/-- The first digit counts as many times as there are numerals of the digits after it. -/
theorem decimalNat_cons {c : Char} {d : Nat} {s : List Char} (digit : digitValue? c = some d)
    (digits : ∀ c ∈ s, isDecimal c = true) : decimalNat (c :: s) = d * 10 ^ s.length + decimalNat s := by
  unfold decimalNat
  rw [List.filterMap_cons_some digit, List.foldl_cons, foldl_digits, length_filterMap_digitValue digits,
    Nat.mul_zero, Nat.zero_add]

theorem decimalNat_lt {s : List Char} (digits : ∀ c ∈ s, isDecimal c = true) :
    decimalNat s < 10 ^ s.length := by
  induction s with
  | nil => decide
  | cons c s ih =>
    obtain ⟨own, others⟩ := List.forall_mem_cons.mp digits
    obtain ⟨d, digit⟩ := Option.isSome_iff_exists.mp own
    have first := digitValue?_lt digit
    have rest := ih others
    rw [decimalNat_cons digit others, List.length_cons, Nat.pow_succ]
    nlinarith

theorem digitValue?_digitChar {d : Nat} (small : d < 10) : digitValue? (Nat.digitChar d) = some d :=
  (by decide : ∀ d < 10, digitValue? (Nat.digitChar d) = some d) d small

/-- The digits of a number are read as it. -/
theorem decimalNat_toDigits (n : Nat) : decimalNat (Nat.toDigits 10 n) = n := by
  induction n using Nat.strongRecOn with
  | ind n ih =>
    rw [Nat.toDigits_eq_if (by decide)]
    split
    · next small =>
      rw [decimalNat, List.filterMap_cons_some (digitValue?_digitChar small)]
      simp
    · have earlier : ((Nat.toDigits 10 (n / 10)).filterMap digitValue?).foldl (fun n d => 10 * n + d) 0 = n / 10 :=
        ih (n / 10) (by omega)
      have last := digitValue?_digitChar (Nat.mod_lt n (by decide : 0 < 10))
      rw [decimalNat, List.filterMap_append, List.foldl_append, earlier, List.filterMap_cons_some last]
      simp only [List.filterMap_nil, List.foldl_cons, List.foldl_nil]
      omega

def significant (s : List Char) : List Char := s.dropWhile fun c => digitValue? c == some 0

theorem isDecimal_significant {s : List Char} (digits : ∀ c ∈ s, isDecimal c = true) :
    ∀ c ∈ significant s, isDecimal c = true :=
  fun c member => digits c ((List.dropWhile_sublist _).mem member)

theorem decimalNat_significant {s : List Char} (digits : ∀ c ∈ s, isDecimal c = true) :
    decimalNat (significant s) = decimalNat s := by
  induction s with
  | nil => rfl
  | cons c s ih =>
    obtain ⟨-, others⟩ := List.forall_mem_cons.mp digits
    by_cases zero : digitValue? c = some 0
    · have dropped : significant (c :: s) = significant s :=
        List.dropWhile_cons_of_pos (beq_iff_eq.mpr zero)
      rw [dropped, ih others, decimalNat_cons zero others, Nat.zero_mul, Nat.zero_add]
    · have kept : significant (c :: s) = c :: s :=
        List.dropWhile_cons_of_neg (by simpa using zero)
      rw [kept]

/-- Significant digits write a number of that many digits. -/
theorem pow_le_decimalNat {s : List Char} (digits : ∀ c ∈ s, isDecimal c = true) (some : significant s ≠ []) :
    10 ^ (significant s).length ≤ 10 * decimalNat s := by
  rw [← decimalNat_significant digits]
  have decimal := isDecimal_significant digits
  have nonzero := List.head?_dropWhile_not (fun c => digitValue? c == Option.some 0) s
  cases own : significant s with
  | nil => exact absurd own some
  | cons c rest =>
    rw [own] at decimal
    obtain ⟨first, others⟩ := List.forall_mem_cons.mp decimal
    obtain ⟨d, digit⟩ := Option.isSome_iff_exists.mp first
    have head : (s.dropWhile fun c => digitValue? c == Option.some 0).head? = Option.some c := by
      rw [show s.dropWhile _ = significant s from rfl, own]
      rfl
    rw [head] at nonzero
    have positive : d ≠ 0 := by
      rintro rfl
      simp [digit] at nonzero
    have least : 1 ≤ d := Nat.one_le_iff_ne_zero.mpr positive
    rw [decimalNat_cons digit others, List.length_cons, Nat.pow_succ]
    nlinarith [Nat.pow_pos (n := rest.length) (by decide : 0 < 10)]

end Text

open Text

namespace Decimal

open Binary64 (ofRatio)

/-- Numbers of more than 310 digits are above all others. -/
theorem power_1025_le : power 2 1025 ≤ (10 : Rat) ^ (310 : Int) := by
  have sizes : 2 ^ 1025 ≤ 10 ^ 310 := by decide +kernel
  rw [power_two, zpow_ofNat, zpow_ofNat]
  exact_mod_cast sizes

theorem le_power_1075 : (10 : Rat) ^ (-330 : Int) ≤ power 2 (-1075) := by
  have sizes : 2 ^ 1075 ≤ 10 ^ 330 := by decide +kernel
  rw [power_two, zpow_neg, zpow_neg, zpow_ofNat, zpow_ofNat]
  exact inv_anti₀ (by positivity) (by exact_mod_cast sizes)

/-- Digits scaled by a power of ten are read as the nearest number, also where they are told to be out
of range by their count alone. -/
theorem number_eq (negative : Bool) {digits : List Char} (decimal : ∀ c ∈ digits, isDecimal c = true) (e : Int) :
    number negative digits e = ofRatio negative (decimalNat digits * 10 ^ e.toNat) (10 ^ (-e).toNat) := by
  have positive : 0 < 10 ^ (-e).toNat := Nat.pow_pos (by decide)
  have scale : (10 : Rat) ^ e.toNat = 10 ^ e * 10 ^ (-e).toNat := by
    rw [← zpow_natCast, ← zpow_natCast, ← zpow_add₀ (by norm_num)]
    congr 1
    omega
  unfold number
  simp only
  rw [show digits.dropWhile (fun c => digitValue? c == some 0) = significant digits from rfl]
  by_cases none : significant digits = []
  · have zero : decimalNat digits = 0 := by
      rw [← decimalNat_significant decimal, none]
      rfl
    rw [if_pos (List.isEmpty_iff.mpr none), zero, Nat.zero_mul, Binary64.ofRatio_zero]
  rw [if_neg (mt List.isEmpty_iff.mp none)]
  -- The count of digits tells only what rounding would: infinite, or zero.
  split
  · next many =>
    refine (Binary64.ofRatio_of_ge negative positive ?_).symm
    have size : (10 : Rat) ^ ((significant digits).length : Int) ≤ 10 * decimalNat digits := by
      exact_mod_cast pow_le_decimalNat decimal none
    have far : (10 : Rat) ^ (310 : Int) ≤ decimalNat digits * 10 ^ e := by
      calc (10 : Rat) ^ (310 : Int) ≤ 10 ^ (e + (significant digits).length - 1) :=
            zpow_le_zpow_right₀ (by norm_num) (by omega)
        _ = 10 ^ ((significant digits).length : Int) * 10 ^ e / 10 := by
          rw [← zpow_add₀ (by norm_num), zpow_sub_one₀ (by norm_num), add_comm e, div_eq_mul_inv]
        _ ≤ 10 * decimalNat digits * 10 ^ e / 10 := by gcongr
        _ = decimalNat digits * 10 ^ e := by ring
    push_cast
    rw [scale, ← mul_assoc]
    exact mul_le_mul_of_nonneg_right (power_1025_le.trans far) (by positivity)
  · split
    · next few =>
      refine (Binary64.ofRatio_of_lt negative ?_).symm
      have size : (decimalNat digits : Rat) < 10 ^ ((significant digits).length : Int) := by
        rw [← decimalNat_significant decimal]
        exact_mod_cast decimalNat_lt (isDecimal_significant decimal)
      have near : decimalNat digits * 10 ^ e < (10 : Rat) ^ (-330 : Int) := by
        calc decimalNat digits * 10 ^ e < (10 : Rat) ^ ((significant digits).length : Int) * 10 ^ e := by gcongr
          _ = 10 ^ (e + (significant digits).length) := by rw [← zpow_add₀ (by norm_num), add_comm]
          _ ≤ 10 ^ (-330 : Int) := zpow_le_zpow_right₀ (by norm_num) (by omega)
      push_cast
      rw [scale, ← mul_assoc]
      exact mul_lt_mul_of_pos_right (near.trans_le le_power_1075) (by positivity)
    · rw [decimalNat_significant decimal]
      split
      · next whole =>
        rw [show (-e).toNat = 0 by omega, pow_zero, Nat.pow_eq]
      · rw [show e.toNat = 0 by omega, pow_zero, Nat.mul_one, Nat.pow_eq]

/-- Digits with at most one point among them. -/
structure Figures where
  whole : List Char
  /-- The digits after the point, if there is one. -/
  places : Option (List Char)
  decimal : ∀ c ∈ whole ++ places.getD [], isDecimal c = true
  written : whole ++ places.getD [] ≠ []

namespace Figures

def digits (f : Figures) : List Char := f.whole ++ f.places.getD []

def text (f : Figures) : List Char :=
  f.whole ++ match f.places with
    | none => []
    | some places => '.' :: places

def value (f : Figures) : Rat := decimalNat f.digits / 10 ^ (f.places.getD []).length

def rounded (f : Figures) (negative : Bool) : Binary64 :=
  ofRatio negative (decimalNat f.digits) (10 ^ (f.places.getD []).length)

theorem isFigure_text (f : Figures) : ∀ c ∈ f.text, IsFigure c := by
  obtain ⟨whole, places, decimal, -⟩ := f
  obtain ⟨first, later⟩ := List.forall_mem_append.mp decimal
  intro c member
  rcases List.mem_append.mp member with own | own
  · exact .inl (first c own)
  · cases places with
    | none => cases own
    | some places =>
      rcases List.mem_cons.mp own with rfl | own
      · exact .inr rfl
      · exact .inl (later c own)

theorem text_ne_nil (f : Figures) : f.text ≠ [] := by
  obtain ⟨whole, places, -, written⟩ := f
  cases places with
  | none => simpa [text] using written
  | some places => simp [text]

theorem unsigned_text (f : Figures) (negative : Bool) :
    unsigned? negative f.text = some (f.rounded negative) := by
  obtain ⟨whole, places, decimal, written⟩ := f
  obtain ⟨first, later⟩ := List.forall_mem_append.mp decimal
  have read : number negative (whole ++ places.getD []) (0 - (places.getD []).length) =
      rounded ⟨whole, places, decimal, written⟩ negative := by
    rw [number_eq negative decimal, rounded, digits]
    simp
  have point : isDecimal '.' = false := by decide
  cases places with
  | none =>
    have all : whole.takeWhile isDecimal = whole := List.takeWhile_eq_self_iff.mpr first
    have rest : whole.dropWhile isDecimal = [] := List.dropWhile_eq_nil_iff.mpr first
    have some : whole ≠ [] := by simpa using written
    simpa [unsigned?, text, all, rest, some, exponent?] using read
  | some places =>
    have mark : ∀ c ∈ ('.' :: places).head?, isDecimal c = false := by simp [point]
    obtain ⟨before, after⟩ := span_at_mark first mark
    have all : places.takeWhile isDecimal = places := List.takeWhile_eq_self_iff.mpr later
    have rest : places.dropWhile isDecimal = [] := List.dropWhile_eq_nil_iff.mpr later
    have some : whole = [] → places ≠ [] := by simpa using written
    simpa [unsigned?, text, before, after, all, rest, exponent?] using And.intro some read

theorem read_text (f : Figures) : read? f.text = some (f.rounded false) := by
  have figures := f.isFigure_text
  have unsigned : signed (trimSpace f.text) = (false, f.text) := by
    rw [trimSpace_of_unbroken fun c member => isBlank_of_isFigure (figures c member), signed_of_figures figures]
  rw [read_of_figures unsigned figures, f.unsigned_text]

theorem read_negative (f : Figures) : read? ('-' :: f.text) = some (f.rounded true) := by
  have figures := f.isFigure_text
  have signed : signed (trimSpace ('-' :: f.text)) = (true, f.text) := by
    rw [trimSpace_of_unbroken (List.forall_mem_cons.mpr
      ⟨rfl, fun c member => isBlank_of_isFigure (figures c member)⟩)]
    rfl
  rw [read_of_figures signed figures, f.unsigned_text]

/-- An exponent starts with a letter. -/
theorem eq_nil_of_exponent {s : List Char} {e : Int} (figures : ∀ c ∈ s, IsFigure c)
    (exponent : exponent? s = some e) : s = [] := by
  cases s with
  | nil => rfl
  | cons c s =>
    have figure := figures c List.mem_cons_self
    have small : c ≠ 'e' := figure.ne (by decide) (by decide)
    have capital : c ≠ 'E' := figure.ne (by decide) (by decide)
    simp [exponent?, small, capital] at exponent

/-- No other digits and points are read. -/
theorem exists_text {s : List Char} {x : Binary64} (figures : ∀ c ∈ s, IsFigure c) (found : read? s = some x) :
    ∃ f : Figures, f.text = s := by
  have unsigned : signed (trimSpace s) = (false, s) := by
    rw [trimSpace_of_unbroken fun c member => isBlank_of_isFigure (figures c member), signed_of_figures figures]
  rw [read_of_figures unsigned figures] at found
  have whole : ∀ c ∈ s.takeWhile isDecimal, isDecimal c = true := fun c => List.mem_takeWhile_imp
  have parts := List.takeWhile_append_dropWhile (p := isDecimal) (l := s)
  have ended {rest : List Char} {e : Int} (own : rest ⊆ s) (exponent : exponent? rest = some e) : rest = [] :=
    eq_nil_of_exponent (fun c member => figures c (own member)) exponent
  unfold unsigned? at found
  simp only at found
  split at found
  · next rest point =>
    split at found
    · cases found
    · next written =>
      obtain ⟨e, exponent, -⟩ := Option.map_eq_some_iff.mp found
      have own : rest ⊆ s := fun c member =>
        (List.dropWhile_sublist isDecimal).mem (point ▸ List.mem_cons_of_mem _ member)
      have places := List.takeWhile_append_dropWhile (p := isDecimal) (l := rest)
      rw [ended (fun c member => own ((List.dropWhile_sublist isDecimal).mem member)) exponent,
        List.append_nil] at places
      refine ⟨⟨s.takeWhile isDecimal, some (rest.takeWhile isDecimal), ?_, ?_⟩, ?_⟩
      · exact List.forall_mem_append.mpr ⟨whole, fun c => List.mem_takeWhile_imp⟩
      · simpa using written
      · rw [point, ← places] at parts
        exact parts
  · next rest _ =>
    split at found
    · cases found
    · next written =>
      obtain ⟨e, exponent, -⟩ := Option.map_eq_some_iff.mp found
      have none := ended (fun c member => (List.dropWhile_sublist isDecimal).mem member) exponent
      rw [none, List.append_nil] at parts
      refine ⟨⟨s.takeWhile isDecimal, Option.none, ?_, ?_⟩, ?_⟩
      · exact List.forall_mem_append.mpr ⟨whole, nofun⟩
      · simpa using written
      · exact (List.append_nil _).trans parts

end Figures

end Decimal

end Clipping

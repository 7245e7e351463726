import Clipping.Markup.Fragment
import Clipping.Proofs.Number.Numerals

/-! Operations that have no result for some of their arguments. Each stops with a fault there, and
a fault ends the whole computation unless it is absorbed; beside each operation stand the
arguments that it has results for. -/
namespace Clipping

open Text Markup

/-- Why an operation has no result. -/
inductive Fault where
  /-- The text writes no number. -/
  | unread (text : List Char)
  /-- An infinite or undefined number has no integer near it. -/
  | noInteger (x : Binary64)
  /-- The rounded number leaves the range. -/
  | outOfRange (x : Finite)
  | zeroDivisor
  /-- The integer has too many digits to be written. -/
  | tooLong (n : Int)
  | noItem (position : Nat)
  /-- A run of text stands where an element is asked for. -/
  | noElement
  | unparsed (cause : ReadFault)
  deriving DecidableEq, Repr

abbrev Checked := Except Fault

namespace Checked

variable {α β : Type}

@[simp] theorem bind_ok (a : α) (f : α → Checked β) : ((Except.ok a : Checked α) >>= f) = f a := rfl

@[simp] theorem pure_eq (a : α) : (pure a : Checked α) = .ok a := rfl

theorem mapM_ok {f : α → Checked β} {g : α → β} {xs : List α} (each : ∀ a ∈ xs, f a = .ok (g a)) :
    xs.mapM f = .ok (xs.map g) := by
  induction xs with
  | nil => rfl
  | cons a rest ih =>
    obtain ⟨first, others⟩ := List.forall_mem_cons.mp each
    rw [List.mapM_cons, first, bind_ok, ih others]
    rfl

/-! Reading. -/

def number (s : List Char) : Checked Binary64 :=
  match Decimal.read? s with
  | some x => .ok x
  | none => .error (.unread s)

def whole (s : List Char) : Checked Nat :=
  if s ≠ [] ∧ s.length ≤ mostDigits ∧ s.all isDecimal then .ok (decimalNat s) else .error (.unread s)

/-- Absorbs the fault of a text that writes no number, and no other. -/
def absorbing : Checked α → Checked (Option α)
  | .ok a => .ok (some a)
  | .error (.unread _) => .ok none
  | .error fault => .error fault

@[simp] theorem absorbing_number (s : List Char) : absorbing (number s) = .ok (Decimal.read? s) := by
  unfold number
  cases Decimal.read? s with
  | none => rfl
  | some x => rfl

theorem number_of_read {s : List Char} {x : Binary64} (found : Decimal.read? s = some x) : number s = .ok x := by
  rw [number, found]

theorem whole_takeWhile {s : List Char} (short : (s.takeWhile isDecimal).length ≤ mostDigits)
    (written : 1 ≤ (s.takeWhile isDecimal).length) :
    whole (s.takeWhile isDecimal) = .ok (decimalNat (s.takeWhile isDecimal)) :=
  if_pos ⟨List.length_pos_iff.mp written, short,
    List.all_eq_true.mpr fun _ member => List.mem_takeWhile_imp member⟩

/-! Integers of numbers. -/

def integer (take : Finite → Int) : Binary64 → Checked Int
  | .finite x => .ok (take x)
  | x => .error (.noInteger x)

@[simp] theorem integer_finite (take : Finite → Int) (x : Finite) : integer take (.finite x) = .ok (take x) := rfl

example : integer Finite.floor .nan = .error (.noInteger .nan) := rfl

def equals (x : Binary64) (n : Int) : Bool :=
  match x with
  | .finite x => x.value = n
  | _ => false

@[simp] theorem equals_finite (x : Finite) (n : Int) : equals (.finite x) n = decide (x.value = n) := rfl

def written (n : Int) : Checked String :=
  if n.natAbs < 10 ^ mostDigits then .ok (toString n) else .error (.tooLong n)

end Checked

namespace Finite

theorem value_eq_truncated_iff (x : Finite) : x.value = x.truncated ↔ x.value.den = 1 := by
  unfold truncated
  constructor
  · intro same
    rw [same]
    exact Rat.den_intCast _
  · intro whole
    rw [whole, Nat.cast_one, Int.tdiv_one]
    exact ((Rat.den_eq_one_iff _).mp whole).symm

theorem whole_eq (x : Finite) : x.whole? = if x.value = x.truncated then some x.truncated else none := by
  unfold whole?
  split
  · next whole =>
    rw [if_pos (x.value_eq_truncated_iff.mpr whole)]
    unfold truncated
    rw [whole, Nat.cast_one, Int.tdiv_one]
  · next broken => rw [if_neg fun same => broken (x.value_eq_truncated_iff.mp same)]

theorem natAbs_truncated_lt {x : Finite} {k : Nat} (small : x.magnitude < power 2 k) :
    x.truncated.natAbs < 2 ^ k := by
  have positive : (0 : Rat) < x.value.den := Nat.cast_pos.mpr x.value.den_pos
  have below : (x.value.num.natAbs : Rat) < (x.value.den * 2 ^ k : Nat) := by
    rw [Binary64.natAbs_num_eq, abs_value, Nat.cast_mul, Nat.cast_pow, Nat.cast_ofNat, ← zpow_natCast,
      ← power_two, mul_comm]
    exact mul_lt_mul_of_pos_left small positive
  unfold truncated
  rw [Int.natAbs_tdiv, Int.natAbs_natCast]
  exact Nat.div_lt_of_lt_mul (Nat.cast_lt.mp below)

end Finite

namespace Checked

theorem written_of_lt {n : Int} {k : Nat} (small : n.natAbs < 2 ^ k) (short : k ≤ mostDigits) :
    written n = .ok (toString n) := by
  refine if_pos (Nat.lt_of_lt_of_le small ?_)
  calc 2 ^ k ≤ 10 ^ k := Nat.pow_le_pow_left (by decide) k
    _ ≤ 10 ^ mostDigits := Nat.pow_le_pow_right (by decide) short

/-- The integer part of a number of the range is written. -/
theorem written_truncated {x : Finite} (within : x.IsWithin) :
    written x.truncated = .ok (toString x.truncated) := by
  refine written_of_lt (@Finite.natAbs_truncated_lt x 1024 ?_) (by decide)
  exact lt_of_le_of_lt within Finite.largest_lt

/-! Arithmetic. -/

def quotient (x y : Binary64) : Checked Binary64 := (Scale.steps x y).mapError fun _ => .zeroDivisor

/-- A number rounded to decimal places; infinite and undefined numbers are their own rounding. -/
def rounded (x : Binary64) (places : Nat) : Checked Binary64 :=
  match x with
  | .finite x =>
    let unit := Nat.pow 10 places
    match Binary64.ofRatio x.negative (nearest (x.magnitude.num.natAbs * unit) x.magnitude.den) unit with
    | .finite y => .ok (.finite y)
    | _ => .error (.outOfRange x)
  | x => .ok x

def sum : Binary64 → Finite → Binary64
  | .finite x, y => x.add y
  | x, _ => x

def product : Binary64 → Finite → Binary64
  | .finite x, y => x.mul y
  | .infinite negative, y => if y.value = 0 then .nan else .infinite (negative != y.negative)
  | .nan, _ => .nan

/-- The first number is not below the second; never so for an undefined one. -/
def reaches (x y : Binary64) : Bool := x != .nan && y != .nan && !x.lt y

theorem quotient_finite {x y : Finite} (divisor : y.value ≠ 0) :
    quotient (.finite x) (.finite y) = .ok (x.div y) := by
  show Except.mapError _ (if y.value = 0 then .error ScaleFault.noUnit else .ok (x.div y)) = _
  rw [if_neg divisor]
  rfl

theorem quotient_infinite (negative : Bool) {y : Finite} (divisor : y.value ≠ 0) :
    quotient (.infinite negative) (.finite y) = .ok (.infinite (negative != y.negative)) := by
  unfold quotient Scale.steps
  simp only [if_neg divisor, reduceCtorEq, if_false]
  rfl

/-- Rounding to places does not leave the range. -/
theorem rounded_finite {x : Finite} (within : x.IsWithin) (places : Nat) :
    rounded (.finite x) places = .ok (.finite (x.rounded places)) ∧ (x.rounded places).IsWithin := by
  obtain ⟨k, limit⟩ := Finite.exists_largest
  have unit : 0 < 10 ^ places := Nat.pow_pos (by decide)
  have size : |x.magnitude| ≤ k := by
    rw [abs_of_nonneg x.magnitude_nonneg, ← limit]
    exact within
  have bounded : nearest (x.magnitude.num.natAbs * 10 ^ places) x.magnitude.den ≤ k * 10 ^ places := by
    refine nearest_le ?_
    rw [Nat.mul_right_comm]
    exact Nat.mul_le_mul_right _ (Binary64.natAbs_num_le size)
  obtain ⟨y, found⟩ := Binary64.exists_ofRatio x.negative unit
    (by rw [limit]; exact_mod_cast bounded)
  have ranged := Binary64.ranged_ofRatio x.negative
    (nearest (x.magnitude.num.natAbs * 10 ^ places) x.magnitude.den) unit
  unfold rounded Finite.rounded
  simp only [Nat.pow_eq, found] at ranged ⊢
  exact ⟨trivial, ranged.within⟩

/-! Items. -/

def item (xs : List α) (i : Nat) : Checked α :=
  match xs[i]? with
  | some a => .ok a
  | none => .error (.noItem i)

def entry (m : List (Nat × α)) (i : Nat) : Checked α :=
  match m.lookup i with
  | some a => .ok a
  | none => .error (.noItem i)

theorem item_of_getElem? {xs : List α} {i : Nat} {a : α} (found : xs[i]? = some a) : item xs i = .ok a := by
  rw [item, found]

end Checked

end Clipping

/-! Binary64 numbers over exact rationals. An operation computes its exact result and
rounds it once, to the nearest number and to the even one of two; nothing here uses
the machine's floating point. -/
namespace Clipping

/-- The nearest integer to `n / d`, a half going to the even one. -/
def nearest (n d : Nat) : Nat :=
  let whole := n / d
  let rest := 2 * (n % d)
  if rest < d || (rest == d && whole % 2 == 0) then whole else whole + 1

/-- `n / d` divided by `2 ^ exponent`, as a fraction. -/
def scaled (n d : Nat) (exponent : Int) : Nat × Nat :=
  if 0 ≤ exponent then (n, d * Nat.pow 2 exponent.toNat) else (n * Nat.pow 2 (-exponent).toNat, d)

def power (base : Nat) (exponent : Int) : Rat :=
  if 0 ≤ exponent then (Nat.pow base exponent.toNat : Nat)
  else 1 / (Nat.pow base (-exponent).toNat : Nat)

/-- A finite number is `significand * 2 ^ exponent` with a sign; zero keeps its sign. -/
structure Finite where
  negative : Bool
  significand : Nat
  exponent : Int
  deriving DecidableEq, Repr

namespace Finite

def magnitude (x : Finite) : Rat := x.significand * power 2 x.exponent

def value (x : Finite) : Rat := if x.negative then -x.magnitude else x.magnitude

def zero (negative : Bool) : Finite := ⟨negative, 0, 0⟩

/-- The integer that the number is, if it is one. -/
def whole? (x : Finite) : Option Int :=
  if x.value.den = 1 then some x.value.num else none

/-- The integer part: what is left when the fraction is dropped. -/
def truncated (x : Finite) : Int := x.value.num.tdiv x.value.den

end Finite

inductive Binary64 where
  | nan
  | infinite (negative : Bool)
  | finite (x : Finite)
  deriving DecidableEq, Repr

namespace Binary64

/-- The number nearest to `n / d`. A significand has at most 53 bits, the exponent is
at least -1074, and what would need an exponent above 971 is infinite. -/
def ofRatio (negative : Bool) (n d : Nat) : Binary64 :=
  if n = 0 then .finite (.zero negative)
  else
    let guess : Int := (n.log2 : Int) - d.log2 - 52
    let (a, b) := scaled n d guess
    let exponent := max (if a < Nat.pow 2 52 * b then guess - 1 else guess) (-1074)
    let (a, b) := scaled n d exponent
    let m := nearest a b
    let (m, exponent) := if m = Nat.pow 2 53 then (Nat.pow 2 52, exponent + 1) else (m, exponent)
    if exponent > 971 then .infinite negative
    else if m = 0 then .finite (.zero negative)
    else .finite ⟨negative, m, exponent⟩

/-- The number nearest to a rational; `negative` is the sign of a zero. -/
def ofRat (negative : Bool) (x : Rat) : Binary64 :=
  ofRatio (if x = 0 then negative else x < 0) x.num.natAbs x.den

def ofInt (n : Int) : Binary64 := ofRat false n

def finite? : Binary64 → Option Finite
  | finite x => some x
  | _ => none

def isNegative : Binary64 → Bool
  | nan => false
  | infinite negative => negative
  | finite x => x.negative

/-- Whether the first number is below the second; never so for an undefined one. -/
def lt : Binary64 → Binary64 → Bool
  | nan, _ | _, nan => false
  | infinite a, infinite b => a && !b
  | infinite a, finite _ => a
  | finite _, infinite b => !b
  | finite x, finite y => x.value < y.value

end Binary64

namespace Finite

def mul (x y : Finite) : Binary64 :=
  .ofRat (x.negative != y.negative) (x.value * y.value)

def add (x y : Finite) : Binary64 :=
  .ofRat (x.negative && y.negative) (x.value + y.value)

def div (x y : Finite) : Binary64 :=
  .ofRat (x.negative != y.negative) (x.value / y.value)

/-- Rounded to the given number of decimal places. A number that leaves the range by it
has no fraction and is its own rounding. -/
def rounded (x : Finite) (places : Nat) : Finite :=
  let size := x.magnitude
  let unit := Nat.pow 10 places
  match Binary64.ofRatio x.negative (nearest (size.num.natAbs * unit) size.den) unit with
  | .finite y => y
  | _ => x

/-- The nearest integer, a half going to the even one. -/
def nearestInt (x : Finite) : Int :=
  let n : Int := nearest x.magnitude.num.natAbs x.magnitude.den
  if x.negative then -n else n

def floor (x : Finite) : Int := x.value.floor

end Finite

end Clipping

import Clipping.Number.Binary64

/-! The shortest decimal text of a binary64 number: the fewest digits that read back, and
of those the nearest to the number. -/
namespace Clipping

/-- The rationals that round to a number. The two ends belong to it iff the significand
is even. -/
structure Rounding where
  low : Rat
  high : Rat
  closed : Bool

namespace Rounding

def holds (r : Rounding) (x : Rat) : Bool :=
  if r.closed then r.low ≤ x && x ≤ r.high else r.low < x && x < r.high

end Rounding

namespace Finite

/-- Half a unit to both sides; below a power of two the unit is half as large. -/
def rounding (x : Finite) : Rounding :=
  let m : Rat := x.significand
  let unit := power 2 x.exponent
  let below : Rat := if x.significand = Nat.pow 2 52 ∧ -1074 < x.exponent then 1 / 4 else 1 / 2
  ⟨(m - below) * unit, (m + 1 / 2) * unit, x.significand % 2 == 0⟩

end Finite

/-- The exponent `p` with `10 ^ (p - 1) ≤ n / d < 10 ^ p`. -/
def decimalPoint (n d : Nat) : Int :=
  let guess : Int := (Nat.toDigits 10 n).length - (Nat.toDigits 10 d).length
  if power 10 guess ≤ (n : Rat) / (d : Rat) then guess + 1 else guess

/-- Decimal digits after a point that is moved by a power of ten. -/
structure Digits where
  digits : List Char
  point : Int

namespace Digits

/-- The neighbour of `size` on the grid of `count` digits that rounds to the number: of two
such the nearer, and the even one where neither is. -/
def onGrid? (size : Rat) (r : Rounding) (point : Int) (count : Nat) : Option Digits :=
  let unit := power 10 (point - count)
  let part := size / unit
  let below := part.floor.toNat
  let fits (n : Nat) : Bool := r.holds (n * unit)
  let pick (n : Nat) : Digits :=
    let written := Nat.toDigits 10 n
    ⟨(written.reverse.dropWhile (· == '0')).reverse, point - count + written.length⟩
  match fits below, fits (below + 1) with
  | true, true => some (pick (nearest part.num.natAbs part.den))
  | true, false => some (pick below)
  | false, true => some (pick (below + 1))
  | false, false => none

/-- The shortest digits of a number other than zero; seventeen always suffice. -/
def shortest (x : Finite) : Digits :=
  let size := x.magnitude
  let point := decimalPoint size.num.natAbs size.den
  ((List.range 17).findSome? fun k => onGrid? size x.rounding point (k + 1)).getD ⟨[], 0⟩

def zeros (n : Int) : List Char := List.replicate n.toNat '0'

/-- A signed exponent of ten, with two digits or more. -/
def exponentText (exponent : Int) : List Char :=
  let written := Nat.toDigits 10 exponent.natAbs
  'e' :: (if exponent < 0 then '-' else '+') :: zeros (2 - written.length) ++ written

/-- Positional with at least one digit on each side of the point, when the first digit
stands between the fourth place after it and the sixteenth before it; else scientific. -/
def text (d : Digits) : List Char :=
  let count : Int := d.digits.length
  if -4 < d.point ∧ d.point ≤ 16 then
    if d.point ≤ 0 then ['0', '.'] ++ zeros (-d.point) ++ d.digits
    else if d.point < count then
      d.digits.take d.point.toNat ++ '.' :: d.digits.drop d.point.toNat
    else d.digits ++ zeros (d.point - count) ++ ['.', '0']
  else
    let fraction := match d.digits.drop 1 with
      | [] => []
      | more => '.' :: more
    d.digits.take 1 ++ fraction ++ exponentText (d.point - 1)

end Digits

namespace Finite

def text (x : Finite) : String :=
  let size := if x.significand = 0 then ['0', '.', '0'] else (Digits.shortest x).text
  String.ofList (if x.negative then '-' :: size else size)

/-- A whole number without a point, any other in its shortest text. -/
def plain (x : Finite) : String :=
  match x.whole? with
  | some n => toString n
  | none => x.text

end Finite

namespace Binary64

def text : Binary64 → String
  | nan => "nan"
  | infinite false => "inf"
  | infinite true => "-inf"
  | finite x => x.text

def plain : Binary64 → String
  | finite x => x.plain
  | x => x.text

end Binary64

end Clipping

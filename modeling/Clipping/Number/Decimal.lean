import Clipping.Number.Binary64
import Clipping.Text.Blank
import Clipping.Text.Digit

/-! Numbers written in decimal: an optional sign, then digits with an optional point and
exponent, or one of the words for infinity and for an undefined number. Digits may be of
any script, and a low line may stand between two of them. -/
namespace Clipping.Decimal

open Text

/-- Removes each low line between two digits; one elsewhere is an error. -/
def joined? (afterDigit : Bool) : List Char → Option (List Char)
  | [] => some []
  | '_' :: rest =>
    if afterDigit && rest.head?.any isDecimal then joined? false rest else none
  | c :: rest => (joined? (isDecimal c) rest).map (c :: ·)

/-- The number `digits * 10 ^ exponent`. Numbers out of all range are told by the count
of their digits, so that no large power is computed for them. -/
def number (negative : Bool) (digits : List Char) (exponent : Int) : Binary64 :=
  let significant := digits.dropWhile fun c => digitValue? c == some 0
  let size := exponent + significant.length
  if significant.isEmpty then .finite (.zero negative)
  else if 310 < size then .infinite negative
  else if size < -330 then .finite (.zero negative)
  else if 0 ≤ exponent then .ofRatio negative (decimalNat significant * Nat.pow 10 exponent.toNat) 1
  else .ofRatio negative (decimalNat significant) (Nat.pow 10 (-exponent).toNat)

/-- A sign, if there is one, and the rest. -/
def signed : List Char → Bool × List Char
  | '-' :: rest => (true, rest)
  | '+' :: rest => (false, rest)
  | s => (false, s)

/-- The exponent after the digits; its absence is zero. -/
def exponent? : List Char → Option Int
  | [] => some 0
  | mark :: rest =>
    let (negative, digits) := signed rest
    if (mark = 'e' || mark = 'E') && !digits.isEmpty && digits.all isDecimal then
      some (if negative then -decimalNat digits else decimalNat digits)
    else none

def unsigned? (negative : Bool) (s : List Char) : Option Binary64 :=
  let whole := s.takeWhile isDecimal
  let (fraction, rest) := match s.dropWhile isDecimal with
    | '.' :: rest => (rest.takeWhile isDecimal, rest.dropWhile isDecimal)
    | rest => ([], rest)
  if whole.isEmpty && fraction.isEmpty then none
  else (exponent? rest).map fun e => number negative (whole ++ fraction) (e - fraction.length)

/-- Reads a number, with white space around it. -/
def read? (s : List Char) : Option Binary64 :=
  let (negative, rest) := signed (trimSpace s)
  match String.ofList (rest.map Char.toLower) with
  | "inf" | "infinity" => some (.infinite negative)
  | "nan" => some .nan
  | _ => (joined? false rest).bind (unsigned? negative)

end Clipping.Decimal

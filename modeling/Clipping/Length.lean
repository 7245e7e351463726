import Clipping.Number.Decimal
import Clipping.Number.Shortest

/-! Lengths in pixels, and the spacing scale that has names for the most common ones. -/
namespace Clipping

inductive ScaleFault where
  | noUnit
  | infinite
  | undefined
  deriving DecidableEq, Repr

namespace Length

open Text

/-- Digits with perhaps a point among or before them; nothing may follow the point but
digits. Gives the numeral and the rest. -/
def numeral? (s : List Char) : Option (List Char × List Char) :=
  let whole := s.takeWhile isDecimal
  match s.dropWhile isDecimal with
  | '.' :: rest =>
    let fraction := rest.takeWhile isDecimal
    if fraction.isEmpty then if whole.isEmpty then none else some (whole, '.' :: rest)
    else some (whole ++ '.' :: fraction, rest.dropWhile isDecimal)
  | rest => if whole.isEmpty then none else some (whole, rest)

def signedNumeral? : List Char → Option (List Char × List Char)
  | '-' :: rest => (numeral? rest).map fun (digits, rest) => ('-' :: digits, rest)
  | s => numeral? s

/-- A numeral of pixels, with the unit or without it. Other units, keywords and numbers
out of range are no lengths. -/
def pixels? (value : String) : Option Finite :=
  match signedNumeral? (trim value.toList) with
  | some (digits, rest) =>
    if rest.map Char.toLower == [] || rest.map Char.toLower == ['p', 'x'] then
      (Decimal.read? digits).bind Binary64.finite?
    else none
  | none => none

/-- Pixels with at most four places. -/
def finiteText (x : Finite) : String :=
  match x.whole? with
  | some n => toString n ++ "px"
  | none => (x.rounded 4).text ++ "px"

def text : Binary64 → Except ScaleFault String
  | .finite x => .ok (finiteText x)
  | .infinite _ => .error .infinite
  | .nan => .error .undefined

end Length

/-- A scale counts in units of pixels; whole counts have a key up to the limit. -/
structure Scale where
  unit : Binary64
  limit : Int

namespace Scale

/-- Four pixels a step, up to 96 steps. -/
def standard : Scale := ⟨.finite ⟨false, 4, 0⟩, 96⟩

def stepKey (limit : Int) (amount steps : Finite) : String :=
  let doubled := 2 * steps.value
  if doubled = 1 then "0.5"
  else if doubled = 3 then "1.5"
  else if doubled = 5 then "2.5"
  else if doubled = 7 then "3.5"
  else match steps.whole? with
    | some n => if 1 ≤ n ∧ n ≤ limit then toString n else "[" ++ Length.finiteText amount ++ "]"
    | none => "[" ++ Length.finiteText amount ++ "]"

/-- The amount in steps of the unit. -/
def steps (amount unit : Binary64) : Except ScaleFault Binary64 :=
  match amount, unit with
  | .nan, .finite u | .infinite _, .finite u =>
    if u.value = 0 then .error .noUnit
    else if amount = .nan then .ok .nan else .ok (.infinite (amount.isNegative != u.negative))
  | .finite x, .finite u => if u.value = 0 then .error .noUnit else .ok (x.div u)
  | .finite x, .infinite negative => .ok (.finite (.zero (x.negative != negative)))
  | _, _ => .ok .nan

/-- The key of an amount: zero and one pixel have names of their own, half steps up to
three and a half and whole steps follow, and anything else is written out. -/
def key (s : Scale) (amount : Binary64) : Except ScaleFault String :=
  match amount with
  | .finite x =>
    if x.value = 0 then .ok "0"
    else if x.value = 1 then .ok "px"
    else match steps amount s.unit with
      | .error fault => .error fault
      | .ok (.finite n) => .ok (stepKey s.limit x n)
      | .ok (.infinite _) => .error .infinite
      | .ok .nan => .error .undefined
  | _ =>
    match steps amount s.unit with
    | .error fault => .error fault
    | .ok .nan => .error .undefined
    | .ok _ => .error .infinite

/-- The key of a length in pixels on the standard scale. -/
def key? (value : String) : Option String :=
  (Length.pixels? value).bind fun x => (standard.key (.finite x)).toOption

end Scale

end Clipping

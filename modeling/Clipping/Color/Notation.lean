import Clipping.Number.Decimal
import Clipping.Text.Case

/-! The notations of colours. A colour is `rgb(...)` or `rgba(...)` with three channels
and perhaps an alpha, or `#` with hexadecimal digits; each has one canonical form in
lower case hexadecimal, with two digits for the alpha unless it is opaque. -/
namespace Clipping.Color

open Text

/-- The channels as written, and the alpha as written with whether it is a percentage. -/
structure Rgb where
  red : Nat
  green : Nat
  blue : Nat
  alpha : Option (List Char × Bool)
  deriving DecidableEq, Repr

namespace Rgb

/-- One to three digits. -/
def channel? (s : List Char) : Option (Nat × List Char) :=
  let digits := s.takeWhile isDecimal
  if 1 ≤ digits.length ∧ digits.length ≤ 3 then some (decimalNat digits, s.dropWhile isDecimal)
  else none

/-- Blanks around at most one comma, and not nothing. -/
def separator? (s : List Char) : Option (List Char) :=
  match dropBlank s with
  | ',' :: rest => some (dropBlank rest)
  | rest => if s.head?.any isBlank then some rest else none

def isAlphaChar (c : Char) : Bool := isDecimal c || c == '.'

/-- What stands between the last channel and the end: perhaps an alpha after a comma or a
slash, then the closing bracket. -/
def ending? (s : List Char) : Option (Option (List Char × Bool)) :=
  match dropBlank s with
  | [')'] => some none
  | mark :: rest =>
    let rest := dropBlank rest
    let alpha := rest.takeWhile isAlphaChar
    if (mark == ',' || mark == '/') && !alpha.isEmpty then
      let (percent, rest) := match rest.dropWhile isAlphaChar with
        | '%' :: rest => (true, rest)
        | rest => (false, rest)
      if dropBlank rest == [')'] then some (some (alpha, percent)) else none
    else none
  | [] => none

/-- The name of the notation, in any case, and its opening bracket. -/
def opening? : List Char → Option (List Char)
  | r :: g :: b :: rest =>
    if [r, g, b].map Char.toLower == ['r', 'g', 'b'] then
      match rest with
      | '(' :: rest => some rest
      | a :: '(' :: rest => if a.toLower == 'a' then some rest else none
      | _ => none
    else none
  | _ => none

def read? (s : List Char) : Option Rgb := do
  let rest ← opening? (trim s)
  let (red, rest) ← channel? (dropBlank rest)
  let (green, rest) ← separator? rest >>= channel?
  let (blue, rest) ← separator? rest >>= channel?
  let alpha ← ending? rest
  return ⟨red, green, blue, alpha⟩

end Rgb

def hexDigit (n : Nat) : Char := if n < 10 then Char.ofNat (48 + n) else Char.ofNat (87 + n)

def hexByte (n : Nat) : List Char := [hexDigit (n / 16), hexDigit (n % 16)]

/-- How an alpha counts: it may be malformed, opaque, or a part of 255. -/
inductive Alpha where
  | malformed
  | opaqueAlpha
  | part (n : Nat)
  deriving DecidableEq, Repr

def Alpha.ofNumber : Binary64 → Alpha
  | .finite x =>
    if 1 ≤ x.value then .opaqueAlpha
    else match x.mul ⟨false, 255, 0⟩ with
      | .finite y => .part y.nearestInt.toNat
      | _ => .opaqueAlpha
  | _ => .opaqueAlpha

def Alpha.read (digits : List Char) (percent : Bool) : Alpha :=
  match Decimal.read? digits with
  | none => .malformed
  | some (.finite x) => .ofNumber (if percent then x.div ⟨false, 100, 0⟩ else .finite x)
  | some x => .ofNumber x

/-- The canonical form of the channels, each capped at 255, and of the alpha. -/
def Rgb.hex? (c : Rgb) : Option (List Char) :=
  let channels := '#' :: [c.red, c.green, c.blue].flatMap fun n => hexByte (min n 255)
  match c.alpha with
  | none => some channels
  | some (digits, percent) =>
    match Alpha.read digits percent with
    | .malformed => none
    | .opaqueAlpha => some channels
    | .part n => some (channels ++ hexByte n)

def rgbHex? (value : String) : Option String :=
  (Rgb.read? value.toList).bind fun c => c.hex?.map String.ofList

/-- Three hexadecimal digits stand for each of them twice. -/
def hexNotation? : List Char → Option (List Char)
  | '#' :: digits =>
    if digits.all isHexadecimal then
      let low := digits.map Char.toLower
      match digits.length with
      | 3 => some ('#' :: low.flatMap fun c => [c, c])
      | 6 | 8 => some ('#' :: low)
      | _ => none
    else none
  | _ => none

/-- The text starts with the name of the channel notation, in any case. -/
def isRgb (s : List Char) : Bool := (s.take 3).map Char.toLower == ['r', 'g', 'b']

/-- The canonical form of a colour in either notation; names and functions have none. -/
def canonical? (value : String) : Option String :=
  let s := trim value.toList
  if isRgb s then rgbHex? value else (hexNotation? s).map String.ofList

end Clipping.Color

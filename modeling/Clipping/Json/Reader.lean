import Clipping.Json.Basic
import Clipping.Number.Decimal

/-! Reading JSON text. Beyond the standard, the words for undefined and infinite numbers
are values, and of fields with one name the last gives the value and the first its place.
Integers of too many digits are refused. -/
namespace Clipping.Json

inductive Fault where
  | malformed
  | tooManyDigits
  deriving DecidableEq, Repr

namespace Reader

abbrev Result (α : Type) := Except Fault (α × List Char)

def isSpace (c : Char) : Bool := c == ' ' || c == '\t' || c == '\n' || c == '\r'

def skip (s : List Char) : List Char := s.dropWhile isSpace

/-- The code points of a string up to its closing quote, newest first before that. A
surrogate escape is kept as it is. -/
def codes (found : List Nat) : List Char → Result (List Nat)
  | '\x22' :: rest => .ok (found.reverse, rest)
  | '\\' :: 'u' :: a :: b :: c :: d :: rest =>
    if [a, b, c, d].all Text.isHexadecimal then
      codes (Text.hexadecimalNat [a, b, c, d] :: found) rest
    else .error .malformed
  | '\\' :: c :: rest =>
    let marks := [('\x22', 34), ('\\', 92), ('/', 47), ('b', 8), ('f', 12), ('n', 10), ('r', 13), ('t', 9)]
    match marks.lookup c with
    | some code => codes (code :: found) rest
    | none => .error .malformed
  | c :: rest => if c.toNat < 32 then .error .malformed else codes (c.toNat :: found) rest
  | [] => .error .malformed

/-- A high surrogate joins the low one after it. A lone one is no character, and is replaced. -/
def characters : List Nat → List Char
  | [] => []
  | [code] => [if code < 0xD800 || 0xDFFF < code then Char.ofNat code else '\uFFFD']
  | high :: low :: rest =>
    if 0xD800 ≤ high && high ≤ 0xDBFF && 0xDC00 ≤ low && low ≤ 0xDFFF then
      Char.ofNat (0x10000 + (high - 0xD800) * 1024 + (low - 0xDC00)) :: characters rest
    else (if high < 0xD800 || 0xDFFF < high then Char.ofNat high else '\uFFFD') ::
      characters (low :: rest)

def string (s : List Char) : Result String :=
  (codes [] s).map fun (found, rest) => (String.ofList (characters found), rest)

/-- An integer, or a binary64 number when a fraction or an exponent follows. -/
def number (negative : Bool) (s : List Char) : Result Json :=
  let whole := match s with
    | '0' :: _ => ['0']
    | _ => s.takeWhile Char.isDigit
  let rest := s.drop whole.length
  let (fraction, rest) := match rest with
    | '.' :: more => (more.takeWhile Char.isDigit, more)
    | more => ([], more)
  let rest := if fraction.isEmpty then s.drop whole.length else rest.drop fraction.length
  let (exponent, rest) := match rest with
    | mark :: more =>
      let (negative, after) := Decimal.signed more
      let digits := after.takeWhile Char.isDigit
      if (mark == 'e' || mark == 'E') && !digits.isEmpty then
        let e : Int := Text.decimalNat digits
        (some (if negative then -e else e), after.drop digits.length)
      else (none, rest)
    | [] => (none, [])
  if whole.isEmpty then .error .malformed
  else if fraction.isEmpty && exponent.isNone then
    if Text.mostDigits < whole.length then .error .tooManyDigits
    else
      let n : Int := Text.decimalNat whole
      .ok (.integer (if negative then -n else n), rest)
  else
    .ok (.real (Decimal.number negative (whole ++ fraction) (exponent.getD 0 - fraction.length)), rest)

def keywords : List (String × Json) := [
  ("null", .null), ("true", .boolean true), ("false", .boolean false), ("NaN", .real .nan),
  ("Infinity", .real (.infinite false)), ("-Infinity", .real (.infinite true))]

def keyword? (s : List Char) : Option (Json × List Char) :=
  keywords.findSome? fun (word, v) => (Text.after? word.toList s).map (v, ·)

mutual

/-- One value, at any depth. The fuel bounds the nesting and the count of items; the length of the
text is enough of it. -/
def value (fuel : Nat) (s : List Char) : Result Json :=
  match fuel with
  | 0 => .error .malformed
  | fuel + 1 =>
    match keyword? s with
    | some found => .ok found
    | none =>
      match s with
      | '\x22' :: rest => (string rest).map fun (found, rest) => (.text found, rest)
      | '[' :: rest =>
        match skip rest with
        | ']' :: rest => .ok (.array [], rest)
        | rest => items fuel [] rest
      | '\x7b' :: rest =>
        match skip rest with
        | '\x7d' :: rest => .ok (.object [], rest)
        | rest => members fuel [] rest
      | '-' :: rest => number true rest
      | _ => number false s

def items (fuel : Nat) (found : List Json) (s : List Char) : Result Json :=
  match fuel with
  | 0 => .error .malformed
  | fuel + 1 =>
    match value fuel s with
    | .error fault => .error fault
    | .ok (v, rest) =>
      match skip rest with
      | ']' :: rest => .ok (.array (v :: found).reverse, rest)
      | ',' :: rest => items fuel (v :: found) (skip rest)
      | _ => .error .malformed

def members (fuel : Nat) (found : List (String × Json)) (s : List Char) : Result Json :=
  match fuel, s with
  | fuel + 1, '\x22' :: rest =>
    match string rest with
    | .error fault => .error fault
    | .ok (name, rest) =>
      match skip rest with
      | ':' :: rest =>
        match value fuel (skip rest) with
        | .error fault => .error fault
        | .ok (v, rest) =>
          match skip rest with
          | '\x7d' :: rest => .ok (.object (putEntry name v found), rest)
          | ',' :: rest => members fuel (putEntry name v found) (skip rest)
          | _ => .error .malformed
      | _ => .error .malformed
  | _, _ => .error .malformed

end

end Reader

/-- Reads a text that holds one value and nothing else. -/
def read (s : String) : Except Fault Json :=
  match Reader.value (2 * s.length + 2) (Reader.skip s.toList) with
  | .error fault => .error fault
  | .ok (v, rest) => if (Reader.skip rest).isEmpty then .ok v else .error .malformed

end Clipping.Json

import Clipping.Markup.Entity.Names
import Clipping.Text.Digit

/-! Character references: names and numbers of characters after `&`. In the value of an
attribute the semicolon after some names may be missing; in text no name goes without an
end of its own. -/
namespace Clipping.Markup.Entity

open Text

/-- What the numbers 128 to 159 stand for. -/
def controlCodes : List Nat := [
  0x20AC, 0x81, 0x201A, 0x192, 0x201E, 0x2026, 0x2020, 0x2021, 0x2C6, 0x2030, 0x160, 0x2039, 0x152,
  0x8D, 0x17D, 0x8F, 0x90, 0x2018, 0x2019, 0x201C, 0x201D, 0x2022, 0x2013, 0x2014, 0x2DC, 0x2122,
  0x161, 0x203A, 0x153, 0x9D, 0x17E, 0x178]

def replacement : Char := Char.ofNat 0xFFFD

/-- The character of a number. Zero, a surrogate and what is past the last character give the
replacement, as they do in BeautifulSoup 4.15; before it, zero gave the null character. -/
def numbered (n : Nat) : Char :=
  if n = 0 || (0xD800 ≤ n && n < 0xE000) || 0x10FFFF < n then replacement
  else Char.ofNat (if 128 ≤ n then (controlCodes[n - 128]?).getD n else n)

/-- The numbers that stand for nothing in an attribute: controls and noncharacters. -/
def isDropped (n : Nat) : Bool :=
  (1 ≤ n && n ≤ 8) || n == 11 || (14 ≤ n && n < 32) || n == 127 || (0xFDD0 ≤ n && n < 0xFDF0) ||
    (n ≤ 0x10FFFF && 0xFFFE ≤ n % 0x10000)

/-- A number after `#`, decimal or after an `x` hexadecimal, and the count of its characters. It may
have any number of digits here; pages in which it has too many are told by `isOverlong`. -/
def number? (s : List Char) : Option (Nat × Nat) :=
  let digits := s.takeWhile Char.isDigit
  if !digits.isEmpty then some (decimalNat digits, digits.length)
  else match s with
    | x :: rest =>
      let digits := rest.takeWhile isHexadecimal
      if (x == 'x' || x == 'X') && !digits.isEmpty then some (hexadecimalNat digits, digits.length + 1)
      else none
    | [] => none

/-- A decimal number after `#` that has too many digits to be read. -/
def isOverlong (s : List Char) : Bool := mostDigits < (s.takeWhile Char.isDigit).length

/-- The text of a value has a reference with such a number. -/
def hasOverlong : List Char → Bool
  | '&' :: '#' :: rest => isOverlong rest || hasOverlong rest
  | _ :: rest => hasOverlong rest
  | [] => false

/-- The longest start of a name that needs no semicolon: its characters and its length. -/
def openStart? (name : List Char) : Option (List Char × Nat) :=
  let isOpen (n : Nat) : Bool := openNames.contains (String.ofList (name.take n))
  ((List.range (name.length + 1)).reverse.find? isOpen).bind
    fun n => (named? (String.ofList (name.take n))).map (·, n)

/-- What a name in an attribute stands for, with the semicolon after it if there is one. -/
def expanded (name : List Char) (closed : Bool) : List Char :=
  let mark := if closed then [';'] else []
  match if closed then named? (String.ofList name) else none with
  | some found => found
  | none =>
    match openStart? name with
    | some (found, n) => found ++ name.drop n ++ mark
    | none => '&' :: name ++ mark

def isNameChar (c : Char) : Bool :=
  !(['\t', '\n', Char.ofNat 12, ' ', '<', '&', '#', ';'].contains c)

/-- The reference after `&` in an attribute: what it stands for and the count of its
characters. A name has at most 32. -/
def inValue? (s : List Char) : Option (List Char × Nat) :=
  let mark (n : Nat) : Nat := if s[n]? == some ';' then n + 1 else n
  match s with
  | '#' :: rest => (number? rest).map fun (n, count) =>
    (if isDropped n then [] else [numbered n], mark (count + 1))
  | _ =>
    let name := (s.takeWhile isNameChar).take 32
    if name.isEmpty then none
    else some (expanded name (s[name.length]? == some ';'), mark name.length)

/-- The value that the text of an attribute stands for. -/
def unescape : List Char → List Char
  | [] => []
  | c :: rest =>
    if c = '&' then
      match inValue? rest with
      | some (found, n) => found ++ unescape (rest.drop n)
      | none => c :: unescape rest
    else c :: unescape rest
termination_by s => s.length
decreasing_by all_goals simp only [List.length_drop, List.length_cons]; omega

end Clipping.Markup.Entity

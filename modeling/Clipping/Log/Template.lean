import Clipping.Json.Printer
import Clipping.Number.Shortest
import Clipping.Text.Digit

/-! Templates of messages: places that start with a percent sign are filled with values,
in order or by name. -/
namespace Clipping.Log.Template

inductive Fault where
  | missing
  | unused
  | wrongValue
  | unknownPlace
  | unknownName
  | undefinedNumber
  | infiniteNumber
  deriving DecidableEq, Repr

structure Spec where
  left : Bool
  sign : Bool
  blank : Bool
  marked : Bool
  zeros : Bool
  width : Nat
  precision : Option Nat

/-- Fills a text to the width; zeros go between a sign and the digits. -/
def Spec.pad (spec : Spec) (numeric : Bool) (lead body : List Char) : List Char :=
  let missing := spec.width - (lead.length + body.length)
  if spec.left then lead ++ body ++ List.replicate missing ' '
  else if spec.zeros && numeric then lead ++ List.replicate missing '0' ++ body
  else List.replicate missing ' ' ++ lead ++ body

def Spec.lead (spec : Spec) (negative : Bool) : List Char :=
  if negative then ['-'] else if spec.sign then ['+'] else if spec.blank then [' '] else []

def Spec.text (spec : Spec) (s : String) : List Char :=
  spec.pad false [] (match spec.precision with
    | some n => s.toList.take n
    | none => s.toList)

def Spec.number (spec : Spec) (base : Nat) (mark : List Char) (upper : Bool) (n : Int) : List Char :=
  let digits := Nat.toDigits base n.natAbs
  let digits := List.replicate (spec.precision.getD 0 - digits.length) '0' ++ digits
  spec.pad true (spec.lead (n < 0) ++ if spec.marked then mark else [])
    (if upper then digits.map Char.toUpper else digits)

/-- The digits nearest to a magnitude, so many of them. -/
def significant (size : Rat) (count : Nat) : Digits :=
  let point := if size = 0 then 1 else decimalPoint size.num.natAbs size.den
  let scaled := size / power 10 (point - count)
  let n := nearest scaled.num.natAbs scaled.den
  if n = Nat.pow 10 count then ⟨'1' :: Digits.zeros (count - 1), point + 1⟩
  else ⟨Digits.zeros (if n = 0 then count - 1 else 0) ++ Nat.toDigits 10 n, point⟩

/-- A fraction after its point; without digits the point is left out unless it is marked. -/
def pointed (marked : Bool) (fraction : List Char) : List Char :=
  if fraction.isEmpty && !marked then [] else '.' :: fraction

def fixed (marked : Bool) (places : Nat) (size : Rat) : List Char :=
  let digits := Nat.toDigits 10 (nearest (size.num.natAbs * Nat.pow 10 places) size.den)
  let digits := Digits.zeros (places + 1 - digits.length) ++ digits
  digits.take (digits.length - places) ++ pointed marked (digits.drop (digits.length - places))

/-- One digit before the point, and an exponent. -/
def scientific (marked : Bool) (d : Digits) : List Char :=
  d.digits.take 1 ++ pointed marked (d.digits.drop 1) ++ Digits.exponentText (d.point - 1)

def positional (marked : Bool) (d : Digits) : List Char :=
  if d.point ≤ 0 then '0' :: pointed marked (Digits.zeros (-d.point) ++ d.digits)
  else d.digits.take d.point.toNat ++ Digits.zeros (d.point - d.digits.length) ++
    pointed marked (d.digits.drop d.point.toNat)

/-- So many significant digits, less the zeros at their end unless the point is marked;
positional from the fourth place after the point to the last of the digits. -/
def general (marked : Bool) (count : Nat) (size : Rat) : List Char :=
  let d := significant size count
  let kept := if marked then d else
    { d with digits := (d.digits.reverse.dropWhile (· == '0')).reverse }
  if -4 < d.point ∧ d.point ≤ count then positional marked kept else scientific marked kept

def Spec.real (spec : Spec) (kind : Char) (x : Binary64) : List Char :=
  let places := spec.precision.getD 6
  let write (s : List Char) : List Char := if kind.isUpper then s.map Char.toUpper else s
  match x with
  | .nan => spec.pad false (spec.lead false) (write "nan".toList)
  | .infinite negative => spec.pad false (spec.lead negative) (write "inf".toList)
  | .finite x =>
    spec.pad true (spec.lead x.negative) <| write <| match kind.toLower with
      | 'f' => fixed spec.marked places x.magnitude
      | 'e' => scientific spec.marked (significant x.magnitude (places + 1))
      | _ => general spec.marked (max 1 places) x.magnitude

/-- The escapes of all characters beyond ASCII in the shown text of a value. -/
def asciiText (s : String) : String :=
  String.ofList (s.toList.flatMap fun c =>
    if c.toNat < 128 then [c]
    else if c.toNat < 0x100 then '\\' :: 'x' :: Json.hexDigits 2 c.toNat
    else if c.toNat < 0x10000 then Json.unitEscape c.toNat
    else '\\' :: 'U' :: Json.hexDigits 8 c.toNat)

/-- The integer of a value: numbers lose their fraction, truth values are one and zero. -/
def integer (v : Json) : Except Fault Int :=
  match v with
  | .integer n => .ok n
  | .boolean b => .ok (if b then 1 else 0)
  | .real (.finite x) => .ok x.truncated
  | .real .nan => .error .undefinedNumber
  | .real (.infinite _) => .error .infiniteNumber
  | _ => .error .wrongValue

/-- The integer of a value that has no fraction by its kind. -/
def wholeInteger (v : Json) : Except Fault Int :=
  match v with
  | .real _ => .error .wrongValue
  | v => integer v

def real (v : Json) : Except Fault Binary64 :=
  match v with
  | .real x => .ok x
  | v => do
    match Binary64.ofInt (← integer v) with
    | .infinite _ => .error .infiniteNumber
    | x => .ok x

def placed (spec : Spec) (kind : Char) (v : Json) : Except Fault (List Char) :=
  match kind with
  | 's' => .ok (spec.text v.display)
  | 'r' => .ok (spec.text v.shown)
  | 'a' => .ok (spec.text (asciiText v.shown))
  | 'd' | 'i' | 'u' => (integer v).map (spec.number 10 [] false)
  | 'x' => (wholeInteger v).map (spec.number 16 ['0', 'x'] false)
  | 'X' => (wholeInteger v).map (spec.number 16 ['0', 'X'] true)
  | 'o' => (wholeInteger v).map (spec.number 8 ['0', 'o'] false)
  | 'c' =>
    match v with
    | .text s => if s.length = 1 then .ok (spec.pad false [] s.toList) else .error .wrongValue
    | v =>
      match wholeInteger v with
      | .ok n =>
        if 0 ≤ n ∧ n < 0x110000 then .ok (spec.pad false [] [Char.ofNat n.toNat])
        else .error .infiniteNumber
      | .error f => .error f
  | 'e' | 'E' | 'f' | 'F' | 'g' | 'G' => (real v).map (spec.real kind)
  | _ => .error .unknownPlace

/-- A number in a template, or a star that takes it from the values. -/
def count (s : List Char) (values : List Json) :
    Except Fault (Option Int × List Char × List Json) :=
  match s, values with
  | '*' :: rest, .integer n :: values => .ok (some n, rest, values)
  | '*' :: rest, .boolean b :: values => .ok (some (if b then 1 else 0), rest, values)
  | '*' :: _, [] => .error .missing
  | '*' :: _, _ => .error .wrongValue
  | s, values =>
    let digits := s.takeWhile Char.isDigit
    .ok (if digits.isEmpty then none else some (Text.decimalNat digits : Int),
      s.drop digits.length, values)

/-- A name in round brackets, which may hold further pairs of them, and the rest. -/
def name? : Nat → List Char → Option (List Char × List Char)
  | _, [] => none
  | 0, ')' :: rest => some ([], rest)
  | depth, c :: rest =>
    let deeper := if c = '(' then depth + 1 else if c = ')' then depth - 1 else depth
    (name? deeper rest).map fun (name, rest) => (c :: name, rest)

/-- The value of a name is then the only value. -/
def chosen (named : Option (List (String × Json))) (s : List Char) (values : List Json) :
    Except Fault (List Char × List Json) :=
  match s, named with
  | '(' :: _, none => .error .wrongValue
  | '(' :: rest, some fields =>
    match name? 0 rest with
    | none => .error .unknownPlace
    | some (name, rest) =>
      match fields.lookup (String.ofList name) with
      | some v => .ok (rest, [v])
      | none => .error .unknownName
  | s, _ => .ok (s, values)

/-- A place after its percent sign: what it shows, the rest and the values left. -/
def place (named : Option (List (String × Json))) (s : List Char) (values : List Json) :
    Except Fault (List Char × List Char × List Json) := do
  let (s, values) ← chosen named s values
  let isFlag (c : Char) : Bool := ['-', '+', ' ', '#', '0'].contains c
  let flags := s.takeWhile isFlag
  let (width, s, values) ← count (s.dropWhile isFlag) values
  let (precision, s, values) ← match s with
    | '.' :: rest => do
      let (n, rest, values) ← count rest values
      .ok (some (n.getD 0).toNat, rest, values)
    | s => .ok (none, s, values)
  let s := match s with
    | c :: rest => if ['h', 'l', 'L'].contains c then rest else c :: rest
    | [] => []
  let width := width.getD 0
  let spec : Spec := ⟨flags.contains '-' || width < 0, flags.contains '+', flags.contains ' ',
    flags.contains '#', flags.contains '0', width.natAbs, precision⟩
  match s, values with
  | [], _ => .error .unknownPlace
  | _ :: _, [] => .error .missing
  | kind :: rest, v :: values => return (← placed spec kind v, rest, values)

/-- Fills the places from a text on; each place takes at least its sign. -/
def fillFrom (named : Option (List (String × Json))) :
    Nat → List Char → List Json → Except Fault (List Char × List Json)
  | 0, s, values => .ok (s, values)
  | _ + 1, [], values => .ok ([], values)
  | fuel + 1, c :: s, values =>
    if c = '%' then
      match s with
      | '%' :: rest => (fillFrom named fuel rest values).map fun (text, values) => ('%' :: text, values)
      | s => do
        let (shown, rest, values) ← place named s values
        (fillFrom named fuel rest values).map fun (text, values) => (shown ++ text, values)
    else (fillFrom named fuel s values).map fun (text, values) => (c :: text, values)

/-- The message of a template. A single object gives values by name; else every value is
used. Without values a template is its own message. -/
def fill (template : String) (values : List Json) : Except Fault String :=
  if values.isEmpty then .ok template
  else
    let named := match values with
      | [.object fields] => if fields.isEmpty then none else some fields
      | _ => none
    match fillFrom named (template.length + 1) template.toList values with
    | .error f => .error f
    | .ok (text, rest) =>
      if rest.isEmpty || named.isSome then .ok (String.ofList text) else .error .unused

end Clipping.Log.Template

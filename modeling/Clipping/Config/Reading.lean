import Clipping.Config.Basic
import Clipping.Json.Printer
import Clipping.Number.Decimal

/-! Reading settings from JSON. Every field that is wrong is reported, and only when none
is are the names compared. -/
namespace Clipping.Config

inductive Fault where
  | notText
  | tooShort
  | notInteger
  | unreadable
  | fractional
  | tooLarge
  | notFinite
  | below (least : Nat)
  | above (greatest : Nat)
  | unknown
  | collision (rootClass childStem : String)
  deriving DecidableEq, Repr

namespace Fault

def kind : Fault → String
  | notText => "string_type"
  | tooShort => "string_too_short"
  | notInteger => "int_type"
  | unreadable => "int_parsing"
  | fractional => "int_from_float"
  | tooLarge => "int_parsing_size"
  | notFinite => "finite_number"
  | below _ => "greater_than_equal"
  | above _ => "less_than_equal"
  | unknown => "extra_forbidden"
  | collision _ _ => "value_error"

def message : Fault → String
  | notText => "Input should be a valid string"
  | tooShort => "String should have at least 1 character"
  | notInteger => "Input should be a valid integer"
  | unreadable => "Input should be a valid integer, unable to parse string as an integer"
  | fractional => "Input should be a valid integer, got a number with a fractional part"
  | tooLarge => "Unable to parse input string as an integer, exceeded maximum size"
  | notFinite => "Input should be a finite number"
  | below least => "Input should be greater than or equal to " ++ toString least
  | above greatest => "Input should be less than or equal to " ++ toString greatest
  | unknown => "Extra inputs are not permitted"
  | collision rootClass childStem =>
    "Value error, rootClassName '" ++ rootClass ++
      "' collides with the generated child class names '" ++ childStem ++ "N'"

end Fault

/-- A fault and the path of the field that has it; faults of the whole have no path. -/
structure Issue where
  path : String
  fault : Fault
  deriving DecidableEq, Repr

/-- The fields, each with its name in files and the other name that it may have. -/
def rootClassField : String × String := ("rootClassName", "root_class_name")
def childStemField : String × String := ("childClassPrefix", "child_class_prefix")
def overlayStemField : String × String := ("ignoredIdPrefix", "ignored_id_prefix")
def indentWidthField : String × String := ("indentWidth", "indent_width")
def inlineLimitField : String × String := ("inlineTextLimit", "inline_text_limit")

def fieldNames : List (String × String) :=
  [rootClassField, childStemField, overlayStemField, indentWidthField, inlineLimitField]

/-- The name under which a field is given: the name in files comes first. -/
def givenName? (names : String × String) (data : List (String × Json)) : Option String :=
  if (data.lookup names.1).isSome then some names.1
  else if (data.lookup names.2).isSome then some names.2
  else none

def given? (names : String × String) (data : List (String × Json)) : Option Json :=
  (givenName? names data).bind fun name => data.lookup name

def readText (nonempty : Bool) : Json → Except Fault String
  | .text s => if nonempty && s.isEmpty then .error .tooShort else .ok s
  | _ => .error .notText

/-- Decimal digits without a sign; single low lines may stand between them, and zeros
after a point do not count. -/
def naturalText? (s : List Char) : Option Nat :=
  let whole := s.takeWhile (· != '.')
  let fraction := (s.dropWhile (· != '.')).drop 1
  match Decimal.joined? false whole with
  | some digits =>
    if !digits.isEmpty && digits.all Char.isDigit && fraction.all (· == '0') then
      some (Text.decimalNat digits)
    else none
  | none => none

def integerText? (s : String) : Option Int :=
  match Text.trimSpace s.toList with
  | '-' :: rest => (naturalText? rest).map fun n => -n
  | '+' :: rest => (naturalText? rest).map fun n => n
  | rest => (naturalText? rest).map fun n => n

/-- Integers, truth values as one and zero, whole numbers, and texts of integers. -/
def readInteger : Json → Except Fault Int
  | .integer n => .ok n
  | .boolean b => .ok (if b then 1 else 0)
  | .text s =>
    match integerText? s with
    | some n => .ok n
    | none => .error .unreadable
  | .real (.finite x) =>
    match x.whole? with
    | some n => if n.natAbs < Nat.pow 2 63 then .ok n else .error .tooLarge
    | none => .error .fractional
  | .real _ => .error .notFinite
  | _ => .error .notInteger

def readCount (greatest : Option Nat) (v : Json) : Except Fault Nat :=
  match readInteger v with
  | .error fault => .error fault
  | .ok n =>
    if n < 1 then .error (.below 1)
    else match greatest with
      | some most => if (most : Int) < n then .error (.above most) else .ok n.toNat
      | none => .ok n.toNat

/-- Reads a field, or takes its default when it is not given. -/
def readField {α : Type} (read : Json → Except Fault α) (names : String × String) (default : α)
    (data : List (String × Json)) : Except Issue α :=
  match given? names data with
  | none => .ok default
  | some v => (read v).mapError fun fault => ⟨names.1, fault⟩

/-- The fields that are none of the settings, or are given under both names. -/
def unknownFields (data : List (String × Json)) : List Issue :=
  let used := fieldNames.filterMap fun names => givenName? names data
  (data.filter fun entry => !used.contains entry.1).map fun entry => ⟨entry.1, .unknown⟩

def issueOf {α : Type} : Except Issue α → List Issue
  | .ok _ => []
  | .error issue => [issue]

/-- Texts and counts that satisfy their own bounds make settings unless the names collide. -/
def make? (rootClass childStem overlayStem : String) (indentWidth inlineLimit : Nat) : Option Config :=
  if h : rootClass ≠ "" ∧ childStem ≠ "" ∧ 1 ≤ indentWidth ∧ indentWidth ≤ 8 ∧ 1 ≤ inlineLimit ∧
      collides rootClass childStem = false then
    some ⟨rootClass, childStem, overlayStem, indentWidth, inlineLimit, h.1, h.2.1, h.2.2.1, h.2.2.2.1,
      h.2.2.2.2.1, h.2.2.2.2.2⟩
  else none

def read (data : List (String × Json)) : Except (List Issue) Config :=
  let rootClass := readField (readText true) rootClassField standard.rootClass data
  let childStem := readField (readText true) childStemField standard.childStem data
  let overlayStem := readField (readText false) overlayStemField standard.overlayStem data
  let indentWidth := readField (readCount (some 8)) indentWidthField standard.indentWidth data
  let inlineLimit := readField (readCount none) inlineLimitField standard.inlineLimit data
  match rootClass, childStem, overlayStem, indentWidth, inlineLimit, unknownFields data with
  | .ok rootClass, .ok childStem, .ok overlayStem, .ok indentWidth, .ok inlineLimit, [] =>
    match make? rootClass childStem overlayStem indentWidth inlineLimit with
    | some config => .ok config
    | none => .error [⟨"", .collision rootClass childStem⟩]
  | rootClass, childStem, overlayStem, indentWidth, inlineLimit, unknown =>
    .error (issueOf rootClass ++ issueOf childStem ++ issueOf overlayStem ++ issueOf indentWidth ++
      issueOf inlineLimit ++ unknown)

def toJson (c : Config) : Json := .object [
  (rootClassField.1, .text c.rootClass), (childStemField.1, .text c.childStem),
  (overlayStemField.1, .text c.overlayStem), (indentWidthField.1, .integer c.indentWidth),
  (inlineLimitField.1, .integer c.inlineLimit)]

end Clipping.Config

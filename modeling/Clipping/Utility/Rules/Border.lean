import Clipping.Utility.Rule

/-! Rules for corners, borders and outlines. -/
namespace Clipping.Utility

open Text

def radiusNames : Keywords := [
  ("0px", "rounded-none"), ("2px", "rounded-sm"), ("4px", "rounded"), ("6px", "rounded-md"),
  ("8px", "rounded-lg"), ("12px", "rounded-xl"), ("16px", "rounded-2xl"),
  ("24px", "rounded-3xl"), ("9999px", "rounded-full"), ("50%", "rounded-full")]

/-- What follows the stem of a border of each named width. -/
def widthSuffixes : Keywords := [("1px", ""), ("2px", "-2"), ("4px", "-4"), ("8px", "-8")]

def borderStyles : List String := [
  "solid", "dashed", "dotted", "double", "hidden", "none", "groove", "ridge", "inset", "outset"]

def borderSides : List (String × String) := [
  ("border-top", "border-t"), ("border-right", "border-r"), ("border-bottom", "border-b"),
  ("border-left", "border-l")]

/-- A numeral that starts with a digit, then the unit. Gives the numeral and the rest. -/
def pixelNumeral? (s : List Char) : Option (List Char × List Char) :=
  if s.head?.any isDecimal then
    (Length.numeral? s).bind fun (digits, rest) => (after? ['p', 'x'] rest).map (digits, ·)
  else none

/-- A corner of 50 pixels or more is round. -/
def isFullRadius (value : String) : Bool :=
  match pixelNumeral? value.toList with
  | some (digits, []) =>
    match Decimal.read? digits with
    | some x => !x.lt (.ofInt 50)
    | none => false
  | _ => false

def radiusRule : Rule where
  id := "SHAPE.RADIUS"
  kind := "BorderRadiusRule"
  properties := ["border-radius"]
  emit d := declared d "border-radius" fun v =>
    match radiusNames.lookup v with
    | some token => .token token
    | none =>
      if isFullRadius v then .token "rounded-full"
      else .unmapped (Literal.value "rounded" v) "border-radius" v

/-- Zero, with or without places and unit. -/
def isZeroWidth (s : List Char) : Bool :=
  match after? ['0'] s with
  | none => false
  | some rest =>
    let rest := match rest with
      | '.' :: '0' :: more => more.dropWhile (· == '0')
      | more => more
    rest == [] || rest == ['p', 'x']

structure BorderParts where
  width : String
  style : String
  color : String
  deriving DecidableEq, Repr

/-- The colour is what follows the blanks after the style, on one line. Without any, the
last of two or more blanks stands for it, unless it ends the line. -/
def borderColor? (s : List Char) : Option (List Char) :=
  let rest := dropBlank s
  if rest.length = s.length then none
  else if rest.isEmpty then
    match s.reverse with
    | last :: _ :: _ => if last == '\n' then none else some [last]
    | _ => none
  else if rest.contains '\n' then none
  else some rest

def borderParts? (s : List Char) : Option BorderParts := do
  let (digits, rest) ← pixelNumeral? s
  let named := dropBlank rest
  let style := named.takeWhile fun c => 'a' ≤ c && c ≤ 'z'
  let color ← borderColor? (named.drop style.length)
  if named.length = rest.length ∨ style.isEmpty then none
  else some ⟨String.ofList (digits ++ ['p', 'x']), String.ofList style, String.ofList (trim color)⟩

def borderWidth (stem property width : String) : Output :=
  match widthSuffixes.lookup width with
  | some suffix => .token (stem ++ suffix)
  | none => .unmapped (Literal.value stem width) property width

/-- A border of all sides names its style; the style of one side has only a literal. -/
def borderStyle (stem property style value : String) : Output :=
  if style = "solid" then .none
  else if stem = "border" then .token ("border-" ++ style)
  else .unmapped (Literal.declaration (property ++ "-style") style) property value

def borderShorthand (stem property value : String) : Output :=
  match borderParts? value.toList with
  | none => .unmapped stem property value
  | some parts =>
    if !borderStyles.contains parts.style then .unmapped stem property value
    else if parts.style = "none" ∨ parts.style = "hidden" ∨ isZeroWidth parts.width.toList then
      .token (stem ++ "-0")
    else
      borderWidth stem property parts.width ++ borderStyle stem property parts.style value ++
        .color stem property parts.color

def borderRule : Rule where
  id := "SHAPE.BORDER"
  kind := "BorderRule"
  properties := [
    "border", "border-top", "border-right", "border-bottom", "border-left", "border-width",
    "border-style", "border-color", "outline"]
  emit d := .join [
    declared d "border" (borderShorthand "border" "border"),
    .join (borderSides.map fun (property, stem) => declared d property (borderShorthand stem property)),
    declared d "border-width" fun v =>
      if v.toList.contains ' ' then .declaration "border-width" v
      else if isZeroWidth v.toList then .token "border-0"
      else borderWidth "border" "border-width" v,
    declared d "border-style" fun v =>
      if borderStyles.contains v then .token ("border-" ++ v) else .declaration "border-style" v,
    declared d "border-color" fun v =>
      if v.toList.contains ' ' && !(['r', 'g', 'b'].isPrefixOf v.toList) then
        .declaration "border-color" v
      else .color "border" "border-color" v,
    declared d "outline" fun v =>
      if (split v).contains "none" || (split v).head?.any fun width => isZeroWidth width.toList then
        .token "outline-none"
      else .declaration "outline" v]

end Clipping.Utility

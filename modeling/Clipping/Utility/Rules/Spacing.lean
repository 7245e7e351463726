import Clipping.Text.Case
import Clipping.Utility.Rules.Placement

/-! Rules for padding, margin and sizes. Four sides become as few tokens as say the same. -/
namespace Clipping.Utility

/-- One to four words of a box value stand for the top, right, bottom and left side. -/
def expandBox? (value : String) : Option (String × String × String × String) :=
  match split value with
  | [a] => some (a, a, a, a)
  | [a, b] => some (a, b, a, b)
  | [a, b, c] => some (a, b, c, b)
  | [a, b, c, d] => some (a, b, c, d)
  | _ => none

/-- A side is set if it has a key other than the empty one. -/
def isSet (key : Option String) : Bool := key.any (!·.isEmpty)

def sideTokens (stem : String) (key : Option String) : List String :=
  match key with
  | some k => if k.isEmpty then [] else [stem ++ "-" ++ k]
  | none => []

/-- An axis whose two sides agree takes one token, and four agreeing sides take one. -/
def consolidate (stem : String) (top right bottom left : Option String) : List String :=
  if isSet top ∧ top = right ∧ right = bottom ∧ bottom = left then sideTokens stem top
  else
    (if top = bottom then sideTokens (stem ++ "y") top
      else sideTokens (stem ++ "t") top ++ sideTokens (stem ++ "b") bottom) ++
    (if right = left then sideTokens (stem ++ "x") right
      else sideTokens (stem ++ "r") right ++ sideTokens (stem ++ "l") left)

/-- The key of a side. Zero says nothing once another side is set. -/
def sideKey? (value : String) : Option String :=
  let key := Output.lengthKey value
  if key = "0" then none else some key

/-- Padding or margin: from the sides if one is declared, else from the shorthand. -/
def boxRule (shorthand stem : String) : Rule where
  id := "BOX." ++ upper shorthand
  kind := "BoxSpacingRule"
  properties := shorthand :: sides.map fun side => shorthand ++ "-" ++ side
  emit d :=
    let side (name : String) : Option String := d.get? (shorthand ++ "-" ++ name)
    let key (name : String) : Option String := (side name).bind sideKey?
    if sides.any fun name => isSet (side name) then
      .join (sides.map fun name => declared d (shorthand ++ "-" ++ name) fun v =>
        .keyNote (shorthand ++ "-" ++ name) v) ++
      .join ((consolidate stem (key "top") (key "right") (key "bottom") (key "left")).map .token)
    else declared d shorthand fun v =>
      match expandBox? v with
      | none => .declaration shorthand v
      | some (top, right, bottom, left) =>
        if [top, right, bottom, left].any fun part => isSet (sideKey? part) then
          .join ([top, right, bottom, left].map fun part => .keyNote shorthand part) ++
          .join ((consolidate stem (sideKey? top) (sideKey? right) (sideKey? bottom)
            (sideKey? left)).map .token)
        else .declaration shorthand v

def sizeNames : Keywords := [
  ("100%", "full"), ("100vw", "screen"), ("100vh", "screen"), ("50%", "1/2"),
  ("33.3333%", "1/3"), ("66.6667%", "2/3"), ("25%", "1/4"), ("75%", "3/4"),
  ("max-content", "max"), ("min-content", "min"), ("fit-content", "fit")]

def sizingRule : Rule where
  id := "BOX.SIZING"
  kind := "SizingRule"
  properties := ["width", "height", "min-width", "max-width", "min-height", "max-height"]
  emit d := .join [
    measured d "w" "width" sizeNames,
    measured d "h" "height" sizeNames,
    measured d "min-w" "min-width" sizeNames,
    measured d "max-w" "max-width" sizeNames,
    measured d "min-h" "min-height" sizeNames,
    measured d "max-h" "max-height" sizeNames]

end Clipping.Utility

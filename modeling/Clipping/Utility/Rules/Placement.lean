import Clipping.Utility.Rule

/-! Rules for where a box stands and what is seen of it. -/
namespace Clipping.Utility

def displayNames : Keywords := [
  ("flex", "flex"), ("inline-flex", "inline-flex"), ("grid", "grid"),
  ("inline-grid", "inline-grid"), ("block", "block"), ("inline-block", "inline-block"),
  ("inline", "inline"), ("none", "hidden"), ("table", "table"), ("table-row", "table-row"),
  ("table-cell", "table-cell"), ("table-header-group", "table-header-group"),
  ("table-row-group", "table-row-group"), ("table-footer-group", "table-footer-group"),
  ("list-item", "list-item"), ("flow-root", "flow-root"), ("contents", "contents")]

def positionNames : Keywords := [
  ("static", "static"), ("relative", "relative"), ("absolute", "absolute"),
  ("fixed", "fixed"), ("sticky", "sticky")]

def insetNames : Keywords := [("100%", "full"), ("50%", "1/2")]

def overflowValues : List String := ["hidden", "scroll", "auto", "visible", "clip"]

def visibilityNames : Keywords := [
  ("visible", "visible"), ("hidden", "invisible"), ("collapse", "collapse")]

def floatNames : Keywords := [
  ("left", "float-left"), ("right", "float-right"), ("inline-start", "float-start"),
  ("inline-end", "float-end")]

def clearNames : Keywords := [
  ("left", "clear-left"), ("right", "clear-right"), ("both", "clear-both"),
  ("inline-start", "clear-start"), ("inline-end", "clear-end")]

def boxSizingNames : Keywords := [("border-box", "box-border"), ("content-box", "box-content")]

def sides : List String := ["top", "right", "bottom", "left"]

def displayRule : Rule where
  id := "LAYOUT.DISPLAY"
  kind := "DisplayRule"
  properties := ["display"]
  emit d := mapped d "display" displayNames

def positionRule : Rule where
  id := "LAYOUT.POSITION"
  kind := "PositionRule"
  properties := ["position", "top", "right", "bottom", "left"]
  emit d := mapped d "position" positionNames ++
    .join (sides.map fun side => measured d side side insetNames)

def overflow (d : Declarations) (property : String) : Output :=
  declared d property fun v =>
    if overflowValues.contains v then .token (property ++ "-" ++ v)
    else .unmapped (Literal.value property v) property v

def overflowRule : Rule where
  id := "LAYOUT.OVERFLOW"
  kind := "OverflowRule"
  properties := ["overflow", "overflow-x", "overflow-y"]
  emit d := overflow d "overflow" ++ overflow d "overflow-x" ++ overflow d "overflow-y"

def visibilityRule : Rule where
  id := "LAYOUT.VISIBILITY"
  kind := "VisibilityRule"
  properties := ["visibility", "float", "clear", "box-sizing"]
  emit d := mapped d "visibility" visibilityNames ++ mapped d "float" floatNames ++
    mapped d "clear" clearNames ++ mapped d "box-sizing" boxSizingNames

end Clipping.Utility

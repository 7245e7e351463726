import Clipping.Utility.Rules.Tracks

/-! The rule for lists and tables. -/
namespace Clipping.Utility

def tableLayoutNames : Keywords := [("fixed", "table-fixed"), ("auto", "table-auto")]

def borderCollapseNames : Keywords := [
  ("collapse", "border-collapse"), ("separate", "border-separate")]

def verticalAlignNames : Keywords := [
  ("baseline", "align-baseline"), ("top", "align-top"), ("middle", "align-middle"),
  ("bottom", "align-bottom"), ("text-top", "align-text-top"),
  ("text-bottom", "align-text-bottom"), ("sub", "align-sub"), ("super", "align-super")]

def listStyle (d : Declarations) : Output :=
  declared d "list-style" fun v =>
    let words := split v
    if words.contains "disc" then .token "list-disc"
    else if words.contains "decimal" then .token "list-decimal"
    else if words.head? = some "none" then .token "list-none"
    else .declaration "list-style" v

def tabularRule : Rule where
  id := "MISC.LIST_TABLE"
  kind := "ListTableRule"
  properties := ["list-style", "table-layout", "border-collapse", "border-spacing", "vertical-align"]
  emit d := .join [
    listStyle d,
    mapped d "table-layout" tableLayoutNames,
    mapped d "border-collapse" borderCollapseNames,
    axes d "border-spacing" "border-spacing-x" "border-spacing-y" "border-spacing",
    mappedAfter "align" d "vertical-align" verticalAlignNames]

end Clipping.Utility

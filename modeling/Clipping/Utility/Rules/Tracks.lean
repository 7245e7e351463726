import Clipping.Utility.Rule

/-! Rules for grids and for the gaps between tracks. -/
namespace Clipping.Utility

def justifyItemsNames : Keywords := [
  ("start", "justify-items-start"), ("end", "justify-items-end"),
  ("center", "justify-items-center"), ("stretch", "justify-items-stretch")]

def placeItemsNames : Keywords := [
  ("start", "place-items-start"), ("end", "place-items-end"),
  ("center", "place-items-center"), ("stretch", "place-items-stretch"),
  ("baseline", "place-items-baseline")]

def placeContentNames : Keywords := [
  ("start", "place-content-start"), ("end", "place-content-end"),
  ("center", "place-content-center"), ("space-between", "place-content-between"),
  ("space-around", "place-content-around"), ("space-evenly", "place-content-evenly"),
  ("stretch", "place-content-stretch"), ("baseline", "place-content-baseline")]

open Text in
/-- The count of tracks in `repeat(count, minmax(0, 1fr))`, as written. -/
def equalTracks? (s : List Char) : Option (List Char) := do
  let rest ← after? "repeat(".toList s
  let count := rest.takeWhile isDecimal
  let rest ← after? [','] (rest.dropWhile isDecimal)
  let rest ← after? "minmax(0".toList (dropBlank rest)
  let rest ← after? [','] ((after? "px".toList rest).getD rest)
  if !count.isEmpty && dropBlank rest == "1fr))".toList then some count else none

open Text in
/-- The count in `span count`, written once or twice. -/
def spanCount? (s : List Char) : Option (List Char) := do
  let rest ← after? "span ".toList s
  let count := rest.takeWhile isDecimal
  let rest := rest.dropWhile isDecimal
  if !count.isEmpty && (rest.isEmpty || rest == " / span ".toList ++ count) then some count else none

def template (d : Declarations) (stem property : String) : Output :=
  declared d property fun v =>
    match equalTracks? v.toList with
    | some count => .token (stem ++ "-" ++ String.ofList count)
    | none => .unmapped (Literal.value stem v) property v

def span (d : Declarations) (stem property : String) : Output :=
  declared d property fun v =>
    if v = "1 / -1" then .token (stem ++ "-span-full")
    else match spanCount? v.toList with
      | some count => .token (stem ++ "-span-" ++ String.ofList count)
      | none => .unmapped (Literal.value stem v) property v

/-- Two equal halves count as one keyword. -/
def place (d : Declarations) (property : String) (table : Keywords) : Output :=
  declared d property fun v =>
    let v := match split v with
      | [a, b] => if a = b then a else v
      | _ => v
    keyword table (Literal.declaration property v) property v

def gridRule : Rule where
  id := "GRID.TEMPLATE_PLACEMENT"
  kind := "GridRule"
  properties := [
    "grid-template-columns", "grid-template-rows", "grid-template-areas", "grid-column",
    "grid-row", "grid-area", "justify-items", "place-items", "place-content"]
  emit d := .join [
    template d "grid-cols" "grid-template-columns",
    template d "grid-rows" "grid-template-rows",
    span d "col" "grid-column",
    span d "row" "grid-row",
    verbatim d "grid-template-areas",
    verbatim d "grid-area",
    mapped d "justify-items" justifyItemsNames,
    place d "place-items" placeItemsNames,
    place d "place-content" placeContentNames]

/-- One length for both axes, or one for each; more keep their declaration. -/
def axes (d : Declarations) (both first second property : String) : Output :=
  declared d property fun v =>
    match split v with
    | [a] => .length both property a
    | [a, b] =>
      if a = b then .length both property a
      else .length first property a ++ .length second property b
    | _ => .declaration property v

/-- The gap of both axes hides the gaps of each. -/
def gapRule : Rule where
  id := "FLEX.GAP"
  kind := "GapRule"
  properties := ["gap", "row-gap", "column-gap"]
  emit d :=
    if d.contains "gap" then axes d "gap" "gap-y" "gap-x" "gap"
    else measured d "gap-y" "row-gap" [] ++ measured d "gap-x" "column-gap" []

end Clipping.Utility

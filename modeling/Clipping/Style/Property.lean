/-! The style properties that are read from a page, grouped by concern. Their order is
the order of the declarations in every rule of a stylesheet. -/
namespace Clipping.Property

def layout : List String := [
  "display", "position", "top", "right", "bottom", "left", "z-index", "float", "clear",
  "overflow", "overflow-x", "overflow-y", "visibility", "box-sizing"]

def background : List String := [
  "background-color", "background-image", "background-size", "background-position",
  "background-repeat"]

def box : List String := [
  "width", "height", "min-width", "max-width", "min-height", "max-height", "padding",
  "padding-top", "padding-right", "padding-bottom", "padding-left", "margin", "margin-top",
  "margin-right", "margin-bottom", "margin-left"]

def flex : List String := [
  "flex", "flex-direction", "flex-wrap", "flex-flow", "justify-content", "align-items",
  "align-content", "align-self", "flex-grow", "flex-shrink", "flex-basis", "gap", "row-gap",
  "column-gap", "order"]

def grid : List String := [
  "grid-template-columns", "grid-template-rows", "grid-template-areas", "grid-column",
  "grid-row", "grid-area", "justify-items", "place-items", "place-content"]

/-- The properties of text, which an element takes over from its parent. -/
def text : List String := [
  "font-family", "font-size", "font-weight", "font-style", "font-variant", "line-height",
  "letter-spacing", "word-spacing", "text-align", "text-decoration", "text-transform",
  "text-overflow", "white-space", "color"]

def border : List String := [
  "border", "border-top", "border-right", "border-bottom", "border-left", "border-width",
  "border-style", "border-color", "border-radius", "outline"]

def effect : List String := [
  "box-shadow", "text-shadow", "opacity", "transform", "transition", "cursor", "pointer-events",
  "list-style", "table-layout", "border-collapse", "border-spacing", "vertical-align"]

def tracked : List String :=
  layout ++ background ++ box ++ flex ++ grid ++ text ++ border ++ effect

/-- The place of a property among the tracked ones; others stand with the first. -/
def position (name : String) : Nat := (tracked.idxOf? name).getD 0

def isInherited (name : String) : Bool := text.contains name

def colored : List String := ["color", "background-color", "border-color", "outline-color"]

/-- The properties whose values carry subpixel noise. -/
def noisy : List String := ["width", "height"]

end Clipping.Property

import Clipping.Utility.Rule

/-! Rules for colours and backgrounds. -/
namespace Clipping.Utility

def backgroundSizeNames : Keywords := [
  ("cover", "bg-cover"), ("contain", "bg-contain"), ("auto", "bg-auto")]

def backgroundPositionNames : Keywords := [
  ("center", "bg-center"), ("50% 50%", "bg-center"), ("0% 0%", "bg-left-top"),
  ("top", "bg-top"), ("bottom", "bg-bottom"), ("left", "bg-left"), ("right", "bg-right"),
  ("50% 0%", "bg-top"), ("50% 100%", "bg-bottom"), ("0% 50%", "bg-left"),
  ("100% 50%", "bg-right")]

def backgroundRepeatNames : Keywords := [
  ("repeat", "bg-repeat"), ("no-repeat", "bg-no-repeat"), ("repeat-x", "bg-repeat-x"),
  ("repeat-y", "bg-repeat-y"), ("round", "bg-repeat-round"), ("space", "bg-repeat-space")]

def colorRule : Rule where
  id := "COLOR.FILL_TEXT"
  kind := "ColorRule"
  properties := ["background-color", "color"]
  emit d := colored d "bg" "background-color" ++ colored d "text" "color"

def backgroundRule : Rule where
  id := "COLOR.BACKGROUND"
  kind := "BackgroundRule"
  properties := ["background-image", "background-size", "background-position", "background-repeat"]
  emit d := .join [
    declared d "background-image" fun v => .unmapped (Literal.value "bg" v) "background-image" v,
    mapped d "background-size" backgroundSizeNames,
    mapped d "background-position" backgroundPositionNames,
    mapped d "background-repeat" backgroundRepeatNames]

end Clipping.Utility

import Clipping.Color.Notation
import Clipping.Style.Baseline
import Clipping.Style.Property
import Clipping.Text.Case

/-! Which of the values of an element say something: not the neutral ones, nor those that
its tag or, for text, its parent implies. -/
namespace Clipping

/-- The tables of a comparison: the properties that are compared, in the order of the
result, what each tag has of its own, and the neutral values in lower case. -/
structure Sieve where
  tracked : List String
  baselines : Baseline.Table
  neutral : List String

namespace Sieve

def standard : Sieve := ⟨Property.tracked, Baseline.ofTags, Baseline.neutral⟩

/-- Three or more decimal places before the unit at the end; a line feed may follow. -/
def hasSubpixels (value : String) : Bool :=
  let backwards := match value.toList.reverse with
    | '\n' :: rest => rest
    | s => s
  match backwards with
  | 'x' :: 'p' :: rest =>
    3 ≤ (rest.takeWhile Text.isDecimal).length && (rest.dropWhile Text.isDecimal).head? == some '.'
  | _ => false

/-- A value as it is recorded: colours in hexadecimal where they can be. -/
def recorded (property value : String) : String :=
  if Property.colored.contains property && Color.isRgb value.toList then
    (Color.rgbHex? value).getD value
  else value

/-- The parent of the element has the same value, and hands it down. -/
def isHandedDown (parent : Option (String → String)) (property value : String) : Bool :=
  Property.isInherited property && parent.any fun values => values property == value

def declared? (s : Sieve) (tag : String) (values : String → String)
    (parent : Option (String → String)) (property : String) : Option String :=
  let value := values property
  if value.isEmpty || s.neutral.contains (lower value) ||
      (s.baselines.of tag).get? property == some value || isHandedDown parent property value then none
  else if Property.noisy.contains property && hasSubpixels (recorded property value) then none
  else some (recorded property value)

/-- A display other than those implied is declared even if it is neutral. -/
def isForced (s : Sieve) (tag display : String) : Bool :=
  !display.isEmpty && !Baseline.impliedDisplays.contains display &&
    (s.baselines.of tag).get? "display" != some display

def byPosition (d : Declarations) : Declarations :=
  d.arranged (d.entries.mergeSort fun a b => Property.position a.1 ≤ Property.position b.1)
    (List.mergeSort_perm _ _)

def compare (s : Sieve) (tag : String) (values : String → String)
    (parent : Option (String → String)) : Declarations :=
  let kept := Assoc.ofList (s.tracked.filterMap fun p => (s.declared? tag values parent p).map (p, ·))
  if !kept.contains "display" && s.isForced tag (values "display") then
    byPosition (kept.set "display" (values "display"))
  else kept

end Sieve

end Clipping

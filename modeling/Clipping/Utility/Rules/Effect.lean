import Clipping.Utility.Rule

/-! Rules for opacity, shadows, interaction and motion. -/
namespace Clipping.Utility

def opacityScale : List Int := [0, 5, 10, 20, 25, 30, 40, 50, 60, 70, 75, 80, 90, 95, 100]

/-- Each alpha of a black shadow stands for one size; the first that occurs decides. -/
def shadowNames : Keywords := [
  ("rgba(0, 0, 0, 0.05)", "shadow-sm"), ("rgba(0, 0, 0, 0.1)", "shadow"),
  ("rgba(0, 0, 0, 0.15)", "shadow-md"), ("rgba(0, 0, 0, 0.25)", "shadow-lg"),
  ("rgba(0, 0, 0, 0.3)", "shadow-xl")]

def cursorNames : Keywords := [
  ("pointer", "cursor-pointer"), ("not-allowed", "cursor-not-allowed"),
  ("default", "cursor-default"), ("move", "cursor-move"), ("text", "cursor-text"),
  ("wait", "cursor-wait"), ("crosshair", "cursor-crosshair"), ("grab", "cursor-grab"),
  ("grabbing", "cursor-grabbing"), ("help", "cursor-help")]

def stackingNames : Keywords := [
  ("10", "z-10"), ("20", "z-20"), ("30", "z-30"), ("40", "z-40"), ("50", "z-50")]

def pointerEventsNames : Keywords := [
  ("none", "pointer-events-none"), ("auto", "pointer-events-auto")]

def noTransition : String := "all 0s ease 0s"

/-- The percentage of a part of one, a half going up. -/
def percentage (x : Finite) : Int :=
  match x.mul ⟨false, 100, 0⟩ with
  | .finite y =>
    match y.add ⟨false, 1, -1⟩ with
    | .finite z => z.floor
    | _ => 0
  | _ => 0

/-- Full opacity has no token. Percentages off the scale, and what is no part of one, are
literals. -/
def opacityToken? (value : String) : Option String :=
  match Decimal.read? value.toList with
  | some (.finite x) =>
    if x.value < 0 ∨ 1 < x.value then some (Literal.value "opacity" value)
    else if x.value = 1 then none
    else if opacityScale.contains (percentage x) then some ("opacity-" ++ toString (percentage x))
    else some (Literal.value "opacity" value)
  | _ => some (Literal.value "opacity" value)

def opacityRule : Rule where
  id := "EFFECT.OPACITY"
  kind := "OpacityRule"
  properties := ["opacity"]
  emit d := declared d "opacity" fun v =>
    match opacityToken? v with
    | none => .none
    | some token =>
      if "opacity-[".toList.isPrefixOf token.toList then .unmapped token "opacity" v else .token token

def boxShadow (d : Declarations) : Output :=
  declared d "box-shadow" fun v =>
    match shadowNames.find? fun (color, _) => Text.occursIn color.toList v.toList with
    | some (_, token) => .token token
    | none => .unmapped (Literal.value "shadow" v) "box-shadow" v

def shadowRule : Rule where
  id := "EFFECT.SHADOW"
  kind := "ShadowRule"
  properties := ["box-shadow", "text-shadow"]
  emit d := boxShadow d ++ verbatim d "text-shadow"

/-- The initial stacking says nothing. -/
def stacking (d : Declarations) : Output :=
  declared d "z-index" fun v =>
    if v = "" ∨ v = "auto" ∨ v = "0" then .none
    else keyword stackingNames (Literal.value "z" v) "z-index" v

def interactionRule : Rule where
  id := "EFFECT.INTERACTION"
  kind := "InteractionRule"
  properties := ["cursor", "pointer-events", "z-index"]
  emit d := mappedAfter "cursor" d "cursor" cursorNames ++
    mapped d "pointer-events" pointerEventsNames ++ stacking d

def motionRule : Rule where
  id := "EFFECT.MOTION"
  kind := "MotionRule"
  properties := ["transform", "transition"]
  emit d := verbatim d "transform" ++ declared d "transition" fun v =>
    if v = noTransition then .token "transition-none" else .declaration "transition" v

end Clipping.Utility

import Clipping.Proofs.Checked.Colors
import Clipping.Proofs.Checked.Lengths

/-! Outputs with colours and lengths, computed with operations that may fail: those of one
declaration, and those of the four sides of a box. -/
namespace Clipping.Checked

open Text Utility

/-! Parts of an output. -/

def joined : List (Checked Output) → Checked Output
  | [] => return .none
  | part :: rest => do
    let output ← part
    let others ← joined rest
    return output ++ others

def declared (d : Declarations) (property : String) (f : String → Checked Output) : Checked Output :=
  match d.get? property with
  | some value => f value
  | none => return .none

def color (stem property value : String) : Checked Output := do
  let found ← colorToken value stem
  if found.swatch.isSome then return .token found.token
  else return .fallback found.token property value .unmatchedColor

def keyNote (property value key : String) : Output :=
  ⟨[], if Output.isLiteralKey key then [⟨property, value, key, .unmappableValue⟩] else []⟩

def length (stem property value : String) : Checked Output := do
  let key ← lengthKey value
  return .token (stem ++ "-" ++ key) ++ keyNote property value key

def measured (d : Declarations) (stem property : String) (names : Keywords) : Checked Output :=
  declared d property fun v =>
    match names.lookup v with
    | some name => return .token (stem ++ "-" ++ name)
    | none => length stem property v

variable {α : Type} {d : Declarations} {property : String}

theorem joined_map {f : α → Checked Output} {g : α → Output} {xs : List α} (each : ∀ a, f a = .ok (g a)) :
    joined (xs.map f) = .ok (.join (xs.map g)) := by
  induction xs with
  | nil => rfl
  | cons a rest ih =>
    rw [List.map_cons, joined, each, bind_ok, ih]
    rfl

theorem declared_eq {f : String → Checked Output} {g : String → Output} (each : ∀ v, f v = .ok (g v)) :
    declared d property f = .ok (Utility.declared d property g) := by
  unfold declared Utility.declared
  cases d.get? property with
  | none => rfl
  | some v => exact each v

@[simp] theorem color_eq (stem property value : String) :
    color stem property value = .ok (Output.color stem property value) := by
  unfold color Output.color
  rw [colorToken_eq, bind_ok]
  by_cases named : (Color.token value stem).swatch.isSome
  · simp only [if_pos named, pure_eq]
  · simp only [if_neg named, pure_eq]

@[simp] theorem length_eq (stem property value : String) :
    length stem property value = .ok (Output.length stem property value) := by
  unfold length
  rw [lengthKey_eq, bind_ok]
  rfl

@[simp] theorem measured_eq (stem : String) (names : Keywords) :
    measured d stem property names = .ok (Utility.measured d stem property names) := by
  refine declared_eq fun v => ?_
  cases names.lookup v with
  | none => exact length_eq stem property v
  | some name => rfl

/-! Boxes. -/

def expandBox? (value : String) : Checked (Option (String × String × String × String)) := do
  let parts := split value
  if parts.length = 1 then
    let a ← item parts 0
    return some (a, a, a, a)
  else if parts.length = 2 then
    let a ← item parts 0
    let b ← item parts 1
    return some (a, b, a, b)
  else if parts.length = 3 then
    let a ← item parts 0
    let b ← item parts 1
    let c ← item parts 2
    return some (a, b, c, b)
  else if parts.length = 4 then
    let a ← item parts 0
    let b ← item parts 1
    let c ← item parts 2
    let e ← item parts 3
    return some (a, b, c, e)
  else return none

def sideKey (property : String) : Option String → Checked (Option String × Output)
  | none => return (none, .none)
  | some v => do
    let key ← lengthKey v
    return (if key = "0" then none else some key, keyNote property v key)

def box (shorthand stem : String) (d : Declarations) : Checked Output := do
  let side (name : String) : Option String := d.get? (shorthand ++ "-" ++ name)
  if sides.any fun name => isSet (side name) then
    let (top, first) ← sideKey (shorthand ++ "-" ++ "top") (side "top")
    let (right, second) ← sideKey (shorthand ++ "-" ++ "right") (side "right")
    let (bottom, third) ← sideKey (shorthand ++ "-" ++ "bottom") (side "bottom")
    let (left, fourth) ← sideKey (shorthand ++ "-" ++ "left") (side "left")
    return .join [first, second, third, fourth] ++
      .join ((consolidate stem top right bottom left).map .token)
  else declared d shorthand fun v => do
    match ← expandBox? v with
    | none => return .declaration shorthand v
    | some (a, b, c, e) =>
      let (top, first) ← sideKey shorthand (some a)
      let (right, second) ← sideKey shorthand (some b)
      let (bottom, third) ← sideKey shorthand (some c)
      let (left, fourth) ← sideKey shorthand (some e)
      let notes := Output.join [first, second, third, fourth]
      if [top, right, bottom, left].any isSet then
        return notes ++ .join ((consolidate stem top right bottom left).map .token)
      else return notes ++ .declaration shorthand v

@[simp] theorem expandBox?_eq (value : String) : expandBox? value = .ok (Utility.expandBox? value) := by
  unfold expandBox? Utility.expandBox?
  rcases split value with _ | ⟨a, _ | ⟨b, _ | ⟨c, _ | ⟨e, _ | ⟨more, rest⟩⟩⟩⟩⟩
  · rfl
  · rfl
  · rfl
  · rfl
  · rfl
  · simp

def noted (property : String) : Option String → Output
  | none => .none
  | some v => .keyNote property v

@[simp] theorem sideKey_eq (property : String) (side : Option String) :
    sideKey property side = .ok (side.bind sideKey?, noted property side) := by
  cases side with
  | none => rfl
  | some v =>
    simp only [sideKey, lengthKey_eq, bind_ok]
    rfl

/-- A side that is not set has no note. -/
theorem keyNote_of_unset {property v : String} (unset : isSet (sideKey? v) = false) :
    Output.keyNote property v = .none := by
  have plain : Output.isLiteralKey (Output.lengthKey v) = false := by
    unfold sideKey? at unset
    simp only at unset
    split at unset
    · next zero => rw [zero]; rfl
    · have empty : Output.lengthKey v = "" := by simpa [isSet] using unset
      rw [empty]
      rfl
  unfold Output.keyNote
  simp only [plain]
  rfl

theorem noted_eq (d : Declarations) (property : String) :
    noted property (d.get? property) = Utility.declared d property fun v => .keyNote property v := by
  unfold Utility.declared
  cases d.get? property with
  | none => rfl
  | some v => rfl

theorem box_eq (shorthand stem : String) (d : Declarations) :
    box shorthand stem d = .ok ((boxRule shorthand stem).emit d) := by
  unfold box boxRule
  simp only [sideKey_eq, bind_ok, pure_eq, noted_eq]
  by_cases sided : (sides.any fun name => isSet (d.get? (shorthand ++ "-" ++ name))) = true
  · simp only [if_pos sided]
    rfl
  · simp only [if_neg sided]
    refine declared_eq fun v => ?_
    rw [expandBox?_eq, bind_ok]
    rcases Utility.expandBox? v with _ | ⟨a, b, c, e⟩
    · rfl
    · simp only [Option.bind_some, noted]
      by_cases set : ([a, b, c, e].any fun part => isSet (sideKey? part)) = true
      · have same : [sideKey? a, sideKey? b, sideKey? c, sideKey? e].any isSet = true := set
        simp only [if_pos set, if_pos same]
        rfl
      · have same : ¬[sideKey? a, sideKey? b, sideKey? c, sideKey? e].any isSet = true := set
        have unset : ∀ part ∈ [a, b, c, e], Output.keyNote shorthand part = .none := by
          intro part member
          refine keyNote_of_unset (Bool.eq_false_iff.mpr fun own => set ?_)
          exact List.any_eq_true.mpr ⟨part, member, own⟩
        simp only [if_neg set, if_neg same, unset a (by simp), unset b (by simp), unset c (by simp),
          unset e (by simp)]
        rfl

end Clipping.Checked

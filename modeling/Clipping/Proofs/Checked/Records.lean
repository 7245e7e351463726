import Clipping.Proofs.Capture.Positions
import Clipping.Proofs.Capture.Records
import Clipping.Proofs.Checked.Colors

/-! Records, computed with operations that may fail. The values of all elements are listed first and
found again by number: that of the element, and that of its parent, which the walk met before. -/
namespace Clipping.Checked

open Markup

variable {κ : Type}

/-! Declarations. -/

def recorded (property value : String) : Checked String :=
  if Property.colored.contains property && Color.isRgb value.toList then do
    let hex ← rgbHex? value
    return hex.getD value
  else return value

def declared? (s : Sieve) (tag : String) (values : String → String) (parent : Option (String → String))
    (property : String) : Checked (Option String) :=
  let value := values property
  if value.isEmpty || s.neutral.contains (lower value) ||
      (s.baselines.of tag).get? property == some value || Sieve.isHandedDown parent property value then
    return none
  else do
    let own ← recorded property value
    if Property.noisy.contains property && Sieve.hasSubpixels own then return none else return some own

def compare (s : Sieve) (tag : String) (values : String → String) (parent : Option (String → String)) :
    Checked Declarations := do
  let found ← s.tracked.mapM fun p => do
    let value ← declared? s tag values parent p
    return value.map (p, ·)
  let kept := Assoc.ofList (found.filterMap fun entry => entry)
  if !kept.contains "display" && s.isForced tag (values "display") then
    return Sieve.byPosition (kept.set "display" (values "display"))
  else return kept

@[simp] theorem recorded_eq (property value : String) :
    recorded property value = .ok (Sieve.recorded property value) := by
  unfold recorded Sieve.recorded
  simp only [rgbHex?_eq, bind_ok, pure_eq]
  split
  · rfl
  · rfl

@[simp] theorem declared?_eq (s : Sieve) (tag : String) (values : String → String)
    (parent : Option (String → String)) (property : String) :
    declared? s tag values parent property = .ok (s.declared? tag values parent property) := by
  unfold declared? Sieve.declared?
  simp only [recorded_eq, bind_ok, pure_eq]
  split
  · rfl
  · split
    · rfl
    · rfl

@[simp] theorem compare_eq (s : Sieve) (tag : String) (values : String → String)
    (parent : Option (String → String)) : compare s tag values parent = .ok (s.compare tag values parent) := by
  unfold compare Sieve.compare
  simp only [declared?_eq, bind_ok, pure_eq]
  rw [mapM_ok fun p _ => rfl, bind_ok, List.filterMap_map, Function.comp_def]
  split
  · rfl
  · rfl

/-! Records. -/

/-- What the page answers; where it has no answer, the empty text. -/
def answers (resolve : κ → String → Option String) : Resolver κ := fun key property =>
  (resolve key property).getD ""

def valuesAt (resolved : List (String → String)) : Option Nat → Checked (Option (String → String))
  | none => return none
  | some i => do
    let values ← item resolved i
    return some values

def record (config : Config) (resolved : List (String → String)) (v : Visit κ) : Checked Record := do
  let parent ← valuesAt resolved v.parent
  let values ← item resolved v.index
  let styles ← compare .standard v.head.tag values parent
  return ⟨v.index, v.head.tag, config.className v.index, styles⟩

/-- The records of a tree, in the order of the walk that counts as it goes. -/
def records (config : Config) (resolve : κ → String → Option String) (e : Element κ) : Checked (List Record) :=
  let walk := ⟨0, e.head, none⟩ :: (e.content.walkFrom config.overlayStem 0 1).1
  let resolved := walk.map fun v => (answers resolve).values v.head.key
  walk.mapM (record config resolved)

/-- Every element of a walk, and the parent of each, stands in the list of values. -/
theorem record_eq (config : Config) (resolve : Resolver κ) {e : Element κ} {v : Visit κ}
    (met : v ∈ e.walk config.overlayStem) :
    record config ((e.walk config.overlayStem).map fun v => resolve.values v.head.key) v =
      .ok (Record.ofVisit config resolve (e.walk config.overlayStem) v) := by
  obtain ⟨i, found⟩ := List.mem_iff_getElem?.mp met
  obtain ⟨number, -⟩ := Element.getElem?_visits found
  have own : item ((e.walk config.overlayStem).map fun v => resolve.values v.head.key) v.index =
      .ok (resolve.values v.head.key) := by
    refine item_of_getElem? ?_
    rw [number, List.getElem?_map, found, Option.map_some]
  have parent : valuesAt ((e.walk config.overlayStem).map fun v => resolve.values v.head.key) v.parent =
      .ok ((v.parent.bind fun j => (e.walk config.overlayStem)[j]?).map fun a => resolve.values a.head.key) := by
    rcases Element.parent_walk found with ⟨-, root, -⟩ | ⟨j, a, parent, -, above, -⟩
    · rw [root]
      rfl
    · have listed : ((e.walk config.overlayStem).map fun v => resolve.values v.head.key)[j]? =
          some (resolve.values a.head.key) := by
        rw [List.getElem?_map, above, Option.map_some]
      simp only [parent, valuesAt, item_of_getElem? listed, bind_ok, Option.bind_some, above, Option.map_some,
        pure_eq]
  unfold record
  rw [parent, bind_ok, own, bind_ok, compare_eq, bind_ok]
  rfl

@[simp] theorem records_eq (config : Config) (resolve : κ → String → Option String) (e : Element κ) :
    records config resolve e = .ok (Record.ofElement config (answers resolve) e) := by
  unfold records
  rw [← Element.walk_eq]
  exact mapM_ok fun _ met => record_eq config (answers resolve) met

end Clipping.Checked

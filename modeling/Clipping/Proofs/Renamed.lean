import Clipping.Proofs.Noise

/-! Names are seen in the names only. Two settings that name the classes of a clipping in
different ways tell its elements apart alike, so their clippings have the same tokens in the
same places, and cleaned trees that differ in nothing but the values of the classes. -/
namespace Clipping

open Markup

variable {κ : Type}

/-- Settings that differ in the generated names at most. -/
structure Config.AgreesApartNames (c c' : Config) : Prop where
  overlayStem : c.overlayStem = c'.overlayStem
  indentWidth : c.indentWidth = c'.indentWidth
  inlineLimit : c.inlineLimit = c'.inlineLimit

def Record.unnamed (r : Record) : Record := { r with className := "" }

/-- The head with an empty value of its class, where the class stands. -/
def Markup.Head.unnamed (h : Head κ) : Head κ :=
  { h with attributes := h.attributes.map fun name value => if name = "class" then "" else value }

def Markup.Element.classes (e : Element κ) : List (Option String) :=
  e.heads.map fun h => h.attributes.get? "class"

/-- Clippings of one tree that differ in the generated names only. -/
structure DifferInNames (clip other : Clip κ) : Prop where
  utility : clip.utility = other.utility
  utilityMarkup : clip.artifacts.utilityMarkup = other.artifacts.utilityMarkup
  rootTokens : clip.artifacts.rootTokens = other.artifacts.rootTokens
  /-- Each element has the same tokens and the same notes. -/
  outputs : clip.outputs = other.outputs
  records : clip.records.map Record.unnamed = other.records.map Record.unnamed
  /-- The cleaned trees are equal up to the values of the classes. -/
  cleaned : clip.cleaned.mapHeads Head.unnamed = other.cleaned.mapHeads Head.unnamed
  /-- The classes of each are its own names, one for each record. -/
  classes : clip.cleaned.classes =
    (List.range clip.records.length).map fun i => some (clip.config.className i)
  otherClasses : other.cleaned.classes =
    (List.range other.records.length).map fun i => some (other.config.className i)

namespace Markup

/-- Whatever the class was, it leaves no trace behind the value. -/
theorem Head.unnamed_relabelled (className other : String) (h : Head κ) :
    (h.relabelled className).unnamed = (h.relabelled other).unnamed := by
  simp only [unnamed, relabelled, Assoc.map_set, if_true]

theorem Head.withTokens_relabelled (tokens : List String) (className other : String) (h : Head κ) :
    (h.relabelled className).withTokens tokens = (h.relabelled other).withTokens tokens := by
  cases tokens with
  | nil => simp [withTokens, withClass, copied, relabelled]
  | cons token rest => simp [withTokens, copied, relabelled, Assoc.set_set]

end Markup

variable {c c' : Config}

namespace Config

theorem classes_cleaned (c : Config) (e : Element κ) : (c.cleaned e).classes =
    (List.range (e.withoutOverlays c.overlayStem).heads.length).map fun i => some (c.className i) := by
  rw [cleaned_eq_relabelled, Element.classes, Element.heads_mapNumbered]
  apply List.ext_getElem
  · simp
  · intro i bound _
    simp only [List.getElem_map, List.getElem_mapIdx, List.getElem_range]
    exact Head.class_relabelled (c.className i) _

namespace AgreesApartNames

theorem unnamed_records (agree : c.AgreesApartNames c') (resolve : Resolver κ) (e : Element κ) :
    (Record.ofElement c resolve e).map Record.unnamed =
      (Record.ofElement c' resolve e).map Record.unnamed := by
  simp only [Record.ofElement, List.map_map, agree.overlayStem]
  rfl

/-- What a record compiles to does not depend on its name. -/
theorem outputs (agree : c.AgreesApartNames c') (resolve : Resolver κ) (e : Element κ) :
    (Clip.ofElement c resolve e).outputs = (Clip.ofElement c' resolve e).outputs := by
  have compiled (records : List Record) :
      records.map (fun r => Utility.Compiler.builtin.compile r.styles) =
        (records.map Record.unnamed).map fun r => Utility.Compiler.builtin.compile r.styles := by
    rw [List.map_map]
    rfl
  simp only [Clip.ofElement]
  rw [compiled, agree.unnamed_records resolve e, ← compiled]

theorem unnamed_cleaned (agree : c.AgreesApartNames c') (e : Element κ) :
    (c.cleaned e).mapHeads Head.unnamed = (c'.cleaned e).mapHeads Head.unnamed := by
  rw [cleaned_eq_relabelled, cleaned_eq_relabelled, Element.mapHeads_mapNumbered,
    Element.mapHeads_mapNumbered, agree.overlayStem]
  refine Element.mapNumbered_congr _ fun i _ => funext fun h => ?_
  exact Head.unnamed_relabelled _ _ h

/-- The tokens take the places of the names, so the names are gone. -/
theorem cleaned_withTokens (agree : c.AgreesApartNames c') (tokens : Nat → List String)
    (e : Element κ) : (c.cleaned e).withTokens tokens = (c'.cleaned e).withTokens tokens := by
  have placed (c : Config) : (c.cleaned e).withTokens tokens =
      (e.withoutOverlays c.overlayStem).mapNumbered fun i h =>
        (h.relabelled (c.className i)).withTokens (tokens i) := by
    rw [cleaned_eq_relabelled]
    exact Element.mapNumbered_mapNumbered _ (fun i h => h.withTokens (tokens i)) _
  rw [placed c, placed c', agree.overlayStem]
  refine Element.mapNumbered_congr _ fun i _ => funext fun h => ?_
  exact Head.withTokens_relabelled _ _ _ h

end AgreesApartNames

end Config

namespace Clip

theorem utilityMarkup_artifacts (clip : Clip κ) :
    clip.artifacts.utilityMarkup = indent clip.config.indentation clip.utility.print := rfl

theorem rootTokens_artifacts (clip : Clip κ) :
    clip.artifacts.rootTokens = tokensOf clip.outputs 0 := rfl

theorem classes_ofElement (c : Config) (resolve : Resolver κ) (e : Element κ) :
    (ofElement c resolve e).cleaned.classes =
      (List.range (ofElement c resolve e).records.length).map fun i => some (c.className i) := by
  have counted : (ofElement c resolve e).records.length =
      (e.withoutOverlays c.overlayStem).heads.length := Record.length_ofElement c resolve e
  rw [counted]
  exact c.classes_cleaned e

end Clip

/-- What the class names are shows in the class names alone. -/
theorem names_unseen (agree : c.AgreesApartNames c') (resolve : Resolver κ) (e : Element κ) :
    DifferInNames (Clip.ofElement c resolve e) (Clip.ofElement c' resolve e) := by
  have outputs := agree.outputs resolve e
  have utility : (Clip.ofElement c resolve e).utility = (Clip.ofElement c' resolve e).utility := by
    show (c.cleaned e).withTokens (Clip.tokensOf (Clip.ofElement c resolve e).outputs) =
      (c'.cleaned e).withTokens (Clip.tokensOf (Clip.ofElement c' resolve e).outputs)
    rw [outputs, agree.cleaned_withTokens]
  have indentation : (Clip.ofElement c resolve e).config.indentation =
      (Clip.ofElement c' resolve e).config.indentation := by
    show (⟨c.indentWidth, c.inlineLimit⟩ : Indentation) = ⟨c'.indentWidth, c'.inlineLimit⟩
    rw [agree.indentWidth, agree.inlineLimit]
  exact {
    utility := utility
    utilityMarkup := by
      rw [Clip.utilityMarkup_artifacts, Clip.utilityMarkup_artifacts, utility, indentation]
    rootTokens := by rw [Clip.rootTokens_artifacts, Clip.rootTokens_artifacts, outputs]
    outputs := outputs
    records := agree.unnamed_records resolve e
    cleaned := agree.unnamed_cleaned e
    classes := Clip.classes_ofElement c resolve e
    otherClasses := Clip.classes_ofElement c' resolve e }

def shortNames : Config :=
  { Config.standard with
    rootClass := "a", childStem := "a1"
    rootClass_ne := by decide, childStem_ne := by decide, distinct := by decide }

/-- The standard names and others, on a page where a host shows an overlay. -/
theorem names_unseen_while_picking :
    Config.standard.AgreesApartNames shortNames ∧
    DifferInNames (Clip.ofElement Config.standard (fun _ _ => "red") pickedPage)
      (Clip.ofElement shortNames (fun _ _ => "red") pickedPage) := by
  have agree : Config.standard.AgreesApartNames shortNames := ⟨rfl, rfl, rfl⟩
  exact ⟨agree, names_unseen agree _ pickedPage⟩

end Clipping

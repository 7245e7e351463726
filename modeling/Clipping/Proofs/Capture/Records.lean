import Clipping.Artifacts

/-! The records of a tree by their place. The record at a place tells of the element that
the walk meets there, and the place is its number. -/
namespace Clipping

open Markup

variable {κ : Type}

theorem Markup.Element.getElem?_visits {e : Element κ} {k : Nat} {v : Visit κ}
    (found : e.visits[k]? = some v) : v.index = k ∧ e.heads[k]? = some v.head := by
  have index := congrArg (·[k]?) e.map_index_visits
  have head := congrArg (·[k]?) e.map_head_visits
  simp only [List.getElem?_map, found, Option.map_some] at index head
  obtain ⟨_, value⟩ := List.getElem?_eq_some_iff.mp index.symm
  exact ⟨by simpa using value.symm, head.symm⟩

namespace Record

@[simp] theorem length_ofElement (config : Config) (resolve : Resolver κ) (e : Element κ) :
    (ofElement config resolve e).length = (e.withoutOverlays config.overlayStem).heads.length := by
  simp [ofElement, Element.walk]

theorem getElem?_ofElement {config : Config} {resolve : Resolver κ} {e : Element κ} {k : Nat}
    {r : Record} (found : (ofElement config resolve e)[k]? = some r) :
    ∃ v, (e.walk config.overlayStem)[k]? = some v ∧
      r = ofVisit config resolve (e.walk config.overlayStem) v ∧ v.index = k ∧
      (e.withoutOverlays config.overlayStem).heads[k]? = some v.head := by
  simp only [ofElement, List.getElem?_map, Option.map_eq_some_iff] at found
  obtain ⟨v, met, same⟩ := found
  obtain ⟨index, head⟩ := Element.getElem?_visits met
  exact ⟨v, met, same.symm, index, head⟩

theorem map_className_ofElement (config : Config) (resolve : Resolver κ) (e : Element κ) :
    (ofElement config resolve e).map className =
      (List.range (e.withoutOverlays config.overlayStem).heads.length).map config.className := by
  rw [← Element.map_index_visits]
  simp [ofElement, Element.walk, ofVisit, Function.comp_def]

theorem map_tag_ofElement (config : Config) (resolve : Resolver κ) (e : Element κ) :
    (ofElement config resolve e).map tag =
      (e.withoutOverlays config.overlayStem).heads.map Head.tag := by
  rw [← Element.map_head_visits]
  simp [ofElement, Element.walk, ofVisit, Function.comp_def]

/-- The class name of the record with a number; the empty text where there is none. -/
def classOf (records : List Record) (i : Nat) : String := ((records[i]?).map className).getD ""

/-- The tokens of the record with a number; none where there is no record. -/
def tokensOf (records : List Record) (i : Nat) : List String :=
  ((records[i]?).map fun r => (Utility.Compiler.builtin.compile r.styles).tokens).getD []

theorem classOf_ofElement {config : Config} {resolve : Resolver κ} {e : Element κ} {i : Nat}
    (bound : i < (e.withoutOverlays config.overlayStem).heads.length) :
    classOf (ofElement config resolve e) i = config.className i := by
  have named := congrArg (·[i]?) (map_className_ofElement config resolve e)
  simp only [List.getElem?_map, List.getElem?_range bound, Option.map_some] at named
  simp [classOf, named]

theorem tokensOf_eq (records : List Record) :
    tokensOf records =
      Clip.tokensOf (records.map fun r => Utility.Compiler.builtin.compile r.styles) := by
  funext i
  simp [tokensOf, Clip.tokensOf, Function.comp_def]

end Record

end Clipping

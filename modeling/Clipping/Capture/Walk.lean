import Clipping.Markup.Node

/-! The walk through a tree, in pre-order. Each element has a number, and below the root
the smaller number of its parent. Elements of an overlay are not met. -/
namespace Clipping

open Markup

variable {κ : Type}

structure Visit (κ : Type) where
  index : Nat
  head : Head κ
  parent : Option Nat

namespace Markup

/-- The elements below a parent, numbered from `next`. -/
def Content.visits (parent next : Nat) : Content κ → List (Visit κ)
  | .nil => []
  | .text _ rest => rest.visits parent next
  | .element head inner rest =>
    ⟨next, head, some parent⟩ ::
      (inner.visits next (next + 1) ++ rest.visits parent (next + 1 + inner.heads.length))

def Element.visits (e : Element κ) : List (Visit κ) := ⟨0, e.head, none⟩ :: e.content.visits 0 1

/-- The walk that passes over the overlays of a stem. -/
def Element.walk (stem : String) (e : Element κ) : List (Visit κ) := (e.withoutOverlays stem).visits

/-- The walk below a parent, counted as it goes: an overlay takes no number. The number after the
last stands beside it. -/
def Content.walkFrom (stem : String) (parent next : Nat) : Content κ → List (Visit κ) × Nat
  | .nil => ([], next)
  | .text _ rest => rest.walkFrom stem parent next
  | .element head inner rest =>
    if head.hasIdStem stem then rest.walkFrom stem parent next
    else
      let (below, between) := inner.walkFrom stem next (next + 1)
      let (beside, after) := rest.walkFrom stem parent between
      (⟨next, head, some parent⟩ :: (below ++ beside), after)

/-- The tree with the numbers of its elements as keys. -/
def Element.numbered (e : Element κ) : Element Nat := e.mapNumbered fun i h => h.withKey i

theorem Content.map_head_visits (parent next : Nat) (c : Content κ) :
    (c.visits parent next).map Visit.head = c.heads := by
  induction c generalizing parent next with
  | nil => rfl
  | text run rest ih => simpa [visits, heads] using ih parent next
  | element head inner rest ih₁ ih₂ => simp [visits, heads, ih₁, ih₂]

theorem Content.map_index_visits (parent next : Nat) (c : Content κ) :
    (c.visits parent next).map Visit.index = List.range' next c.heads.length := by
  induction c generalizing parent next with
  | nil => rfl
  | text run rest ih => simpa [visits, heads] using ih parent next
  | element head inner rest ih₁ ih₂ =>
    simp [visits, heads, ih₁, ih₂, List.range'_append_1, List.range'_succ]

theorem Element.map_head_visits (e : Element κ) : e.visits.map Visit.head = e.heads := by
  simp [visits, heads, Content.map_head_visits]

@[simp] theorem Element.length_visits (e : Element κ) : e.visits.length = e.heads.length := by
  rw [← map_head_visits, List.length_map]

theorem Element.map_index_visits (e : Element κ) :
    e.visits.map Visit.index = List.range e.heads.length := by
  simp [visits, heads, Content.map_index_visits, List.range_eq_range', List.range'_succ]

/-- What is left out takes no numbers, so the rest may be numbered without it. -/
theorem Content.walkFrom_eq (stem : String) (parent next : Nat) (c : Content κ) :
    c.walkFrom stem parent next = ((c.prune (·.hasIdStem stem)).visits parent next,
      next + (c.prune (·.hasIdStem stem)).heads.length) := by
  induction c generalizing parent next with
  | nil => rfl
  | text run rest ih => exact ih parent next
  | element head inner rest ih₁ ih₂ =>
    by_cases overlay : head.hasIdStem stem = true
    · rw [walkFrom, if_pos overlay, ih₂, prune, if_pos overlay]
    · have counted (m n : Nat) : next + 1 + m + n = next + (m + n + 1) := by omega
      simp only [walkFrom, if_neg overlay, ih₁, ih₂, prune, visits, heads, List.length_cons,
        List.length_append, counted]

theorem Element.walk_eq (stem : String) (e : Element κ) :
    e.walk stem = ⟨0, e.head, none⟩ :: (e.content.walkFrom stem 0 1).1 := by
  rw [Content.walkFrom_eq]
  rfl

end Markup

end Clipping

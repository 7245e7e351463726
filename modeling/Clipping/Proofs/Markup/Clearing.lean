import Clipping.Markup.Cleaning
import Clipping.Proofs.Assoc.Entries
import Clipping.Proofs.Text.Lowered

/-! Clearing a tree of overlays as one walk that counts, and the cleaned copy as what that
walk leaves. Copies have the elements of what they copy, in the same order. -/
namespace Clipping.Markup

variable {κ μ ν : Type}

namespace Content

/-- One walk over a content in document order. An overlay goes with all that it holds and
takes no number; any other element takes the next number and the head that belongs to it.
The walk starts at the first number and ends before the last. -/
inductive Clears (stem : String) (relabel : Nat → Head κ → Head κ) :
    Nat → Content κ → Content κ → Nat → Prop where
  | nil {n} : Clears stem relabel n .nil .nil n
  | text {n m run rest left} : Clears stem relabel n rest left m →
      Clears stem relabel n (.text run rest) (.text run left) m
  | overlay {n m head inner rest left} : head.hasIdStem stem = true →
      Clears stem relabel n rest left m → Clears stem relabel n (.element head inner rest) left m
  | kept {n k m head inner rest innerLeft left} : head.hasIdStem stem = false →
      Clears stem relabel (n + 1) inner innerLeft k → Clears stem relabel k rest left m →
      Clears stem relabel n (.element head inner rest) (.element (relabel n head) innerLeft left) m

/-- Numbering what pruning leaves is that walk. -/
theorem clears_prune (stem : String) (relabel : Nat → Head κ → Head κ) (n : Nat) (c : Content κ) :
    Clears stem relabel n c ((c.prune (·.hasIdStem stem)).mapNumbered relabel n)
      (n + (c.prune (·.hasIdStem stem)).heads.length) := by
  induction c generalizing n with
  | nil => exact .nil
  | text run rest ih => exact .text (ih n)
  | element head inner rest ih₁ ih₂ =>
    cases owned : head.hasIdStem stem with
    | true =>
      simp only [prune, owned, if_true]
      exact .overlay owned (ih₂ n)
    | false =>
      have later := ih₂ (n + 1 + (inner.prune (·.hasIdStem stem)).heads.length)
      simp only [prune, owned, Bool.false_eq_true, if_false, mapNumbered, heads, List.length_cons,
        List.length_append]
      rw [show n + ((inner.prune (·.hasIdStem stem)).heads.length +
        (rest.prune (·.hasIdStem stem)).heads.length + 1) =
          n + 1 + (inner.prune (·.hasIdStem stem)).heads.length +
            (rest.prune (·.hasIdStem stem)).heads.length by omega]
      exact .kept owned (ih₁ (n + 1)) later

/-- Only the numbers that the elements take count. -/
theorem mapNumbered_congr {f g : Nat → Head κ → Head μ} (n : Nat) (c : Content κ)
    (same : ∀ i, n ≤ i → i < n + c.heads.length → f i = g i) :
    c.mapNumbered f n = c.mapNumbered g n := by
  induction c generalizing n with
  | nil => rfl
  | text run rest ih => exact congrArg (text run) (ih n same)
  | element head inner rest ih₁ ih₂ =>
    simp only [heads, List.length_cons, List.length_append] at same
    simp only [mapNumbered]
    rw [same n (by omega) (by omega), ih₁ (n + 1) fun i _ _ => same i (by omega) (by omega),
      ih₂ _ fun i _ _ => same i (by omega) (by omega)]

theorem mapHeads_mapNumbered (f : Nat → Head κ → Head μ) (g : Head μ → Head ν) (n : Nat)
    (c : Content κ) :
    (c.mapNumbered f n).mapHeads g = c.mapNumbered (fun i h => g (f i h)) n := by
  induction c generalizing n with
  | nil => rfl
  | text run rest ih => exact congrArg (text run) (ih n)
  | element head inner rest ih₁ ih₂ => simp [mapNumbered, mapHeads, ih₁, ih₂]

theorem mapNumbered_mapHeads (f : Nat → Head μ → Head ν) (g : Head κ → Head μ) (n : Nat)
    (c : Content κ) :
    (c.mapHeads g).mapNumbered f n = c.mapNumbered (fun i h => f i (g h)) n := by
  induction c generalizing n with
  | nil => rfl
  | text run rest ih => exact congrArg (text run) (ih n)
  | element head inner rest ih₁ ih₂ => simp [mapNumbered, mapHeads, heads_mapHeads, ih₁, ih₂]

theorem mapNumbered_mapNumbered (f : Nat → Head κ → Head μ) (g : Nat → Head μ → Head ν) (n : Nat)
    (c : Content κ) :
    (c.mapNumbered f n).mapNumbered g n = c.mapNumbered (fun i h => g i (f i h)) n := by
  induction c generalizing n with
  | nil => rfl
  | text run rest ih => exact congrArg (text run) (ih n)
  | element head inner rest ih₁ ih₂ =>
    simp [mapNumbered, ih₁, ih₂, heads_mapNumbered]

theorem heads_prune_sublist (drop : Head κ → Bool) (c : Content κ) :
    (c.prune drop).heads.Sublist c.heads := by
  induction c with
  | nil => exact .slnil
  | text run rest ih => exact ih
  | element head inner rest ih₁ ih₂ =>
    unfold prune
    split
    · exact .cons head (ih₂.trans (List.sublist_append_right inner.heads rest.heads))
    · exact (ih₁.append ih₂).cons_cons head

theorem of_mem_prune {drop : Head κ → Bool} {c : Content κ} {h : Head κ}
    (member : h ∈ (c.prune drop).heads) : drop h = false := by
  induction c with
  | nil => cases member
  | text run rest ih => exact ih member
  | element head inner rest ih₁ ih₂ =>
    unfold prune at member
    split at member
    · exact ih₂ member
    · next free =>
      rcases List.mem_cons.mp member with rfl | member
      · exact Bool.not_eq_true _ ▸ free
      · exact (List.mem_append.mp member).elim ih₁ ih₂

theorem prune_eq_self {drop : Head κ → Bool} {c : Content κ}
    (free : ∀ h ∈ c.heads, drop h = false) : c.prune drop = c := by
  induction c with
  | nil => rfl
  | text run rest ih => exact congrArg (text run) (ih free)
  | element head inner rest ih₁ ih₂ =>
    simp only [heads, List.mem_cons, List.mem_append] at free
    simp only [prune, free head (.inl rfl), Bool.false_eq_true, if_false,
      ih₁ fun h member => free h (.inr (.inl member)), ih₂ fun h member => free h (.inr (.inr member))]

end Content

namespace Element

/-- The walk through an element; the element itself always stays and takes number zero. -/
def Clears (stem : String) (relabel : Nat → Head κ → Head κ) (e left : Element κ) (count : Nat) :
    Prop :=
  left.head = relabel 0 e.head ∧ e.content.Clears stem relabel 1 left.content count

theorem heads_mapNumbered (f : Nat → Head κ → Head μ) (e : Element κ) :
    (e.mapNumbered f).heads = e.heads.mapIdx f := by
  simp [heads, mapNumbered, Content.heads_mapNumbered, List.mapIdx_cons, Nat.add_comm]

@[simp] theorem length_heads_mapNumbered (f : Nat → Head κ → Head μ) (e : Element κ) :
    (e.mapNumbered f).heads.length = e.heads.length := by
  rw [heads_mapNumbered, List.length_mapIdx]

theorem mapNumbered_congr {f g : Nat → Head κ → Head μ} (e : Element κ)
    (same : ∀ i < e.heads.length, f i = g i) : e.mapNumbered f = e.mapNumbered g := by
  simp only [heads, List.length_cons] at same
  simp only [mapNumbered]
  rw [same 0 (by omega), Content.mapNumbered_congr 1 e.content fun i _ _ => same i (by omega)]

theorem mapHeads_mapNumbered (f : Nat → Head κ → Head μ) (g : Head μ → Head ν) (e : Element κ) :
    (e.mapNumbered f).mapHeads g = e.mapNumbered fun i h => g (f i h) := by
  simp [mapHeads, mapNumbered, Content.mapHeads_mapNumbered]

theorem mapNumbered_mapHeads (f : Nat → Head μ → Head ν) (g : Head κ → Head μ) (e : Element κ) :
    (e.mapHeads g).mapNumbered f = e.mapNumbered fun i h => f i (g h) := by
  simp [mapHeads, mapNumbered, Content.mapNumbered_mapHeads]

theorem mapNumbered_mapNumbered (f : Nat → Head κ → Head μ) (g : Nat → Head μ → Head ν)
    (e : Element κ) : (e.mapNumbered f).mapNumbered g = e.mapNumbered fun i h => g i (f i h) := by
  simp [mapNumbered, Content.mapNumbered_mapNumbered]

theorem heads_withoutOverlays_sublist (stem : String) (e : Element κ) :
    (e.withoutOverlays stem).heads.Sublist e.heads :=
  (Content.heads_prune_sublist _ e.content).cons_cons e.head

theorem clears_withoutOverlays (stem : String) (relabel : Nat → Head κ → Head κ) (e : Element κ) :
    e.Clears stem relabel ((e.withoutOverlays stem).mapNumbered relabel)
      (e.withoutOverlays stem).heads.length := by
  refine ⟨rfl, ?_⟩
  have walk := Content.clears_prune stem relabel 1 e.content
  rwa [Nat.add_comm] at walk

end Element

end Clipping.Markup

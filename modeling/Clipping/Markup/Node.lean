import Clipping.Style.Declarations
import Clipping.Text.Case

/-! Trees of markup. An element has a key that tells it from others of its tree, a tag and
attributes; its content is a sequence of text runs and elements. Siblings are part of the
recursion, so a traversal of a tree is one structural recursion. -/
namespace Clipping.Markup

variable {κ μ : Type}

abbrev Attributes := Assoc String

structure Head (κ : Type) where
  key : κ
  tag : String
  attributes : Attributes

inductive Content (κ : Type) where
  | nil
  | text (run : String) (rest : Content κ)
  | element (head : Head κ) (inner rest : Content κ)

structure Element (κ : Type) where
  head : Head κ
  content : Content κ

inductive Node (κ : Type) where
  | text (run : String)
  | element (e : Element κ)

namespace Head

/-- The head of a new element; tags are in lower case. -/
def new (key : κ) (tag : String) (attributes : Attributes) : Head κ := ⟨key, lower tag, attributes⟩

/-- The `id` attribute, or the empty text. -/
def id (h : Head κ) : String := h.attributes.value "id"

/-- The id starts with the stem; no id starts with the empty one. -/
def hasIdStem (stem : String) (h : Head κ) : Bool :=
  !stem.isEmpty && stem.toList.isPrefixOf h.id.toList

def withKey (key : μ) (h : Head κ) : Head μ := ⟨key, h.tag, h.attributes⟩

end Head

namespace Content

def append : Content κ → Content κ → Content κ
  | nil, other => other
  | text run rest, other => text run (rest.append other)
  | element head inner rest, other => element head inner (rest.append other)

/-- The children one by one. -/
def nodes : Content κ → List (Node κ)
  | nil => []
  | text run rest => .text run :: rest.nodes
  | element head inner rest => .element ⟨head, inner⟩ :: rest.nodes

def ofNodes : List (Node κ) → Content κ
  | [] => nil
  | .text run :: rest => text run (ofNodes rest)
  | .element e :: rest => element e.head e.content (ofNodes rest)

/-- The heads of all elements in document order, which is pre-order. -/
def heads : Content κ → List (Head κ)
  | nil => []
  | text _ rest => rest.heads
  | element head inner rest => head :: (inner.heads ++ rest.heads)

def mapHeads (f : Head κ → Head μ) : Content κ → Content μ
  | nil => nil
  | text run rest => text run (rest.mapHeads f)
  | element head inner rest => element (f head) (inner.mapHeads f) (rest.mapHeads f)

/-- Changes each head by its number in document order, counting from the given one. -/
def mapNumbered (f : Nat → Head κ → Head μ) (next : Nat) : Content κ → Content μ
  | nil => nil
  | text run rest => text run (rest.mapNumbered f next)
  | element head inner rest =>
    element (f next head) (inner.mapNumbered f (next + 1))
      (rest.mapNumbered f (next + 1 + inner.heads.length))

/-- Leaves out the elements whose head passes, with all that they contain. -/
def prune (drop : Head κ → Bool) : Content κ → Content κ
  | nil => nil
  | text run rest => text run (rest.prune drop)
  | element head inner rest =>
    if drop head then rest.prune drop else element head (inner.prune drop) (rest.prune drop)

/-- The heads of the elements that are left out, in document order. -/
def pruned (drop : Head κ → Bool) : Content κ → List (Head κ)
  | nil => []
  | text _ rest => rest.pruned drop
  | element head inner rest =>
    if drop head then head :: rest.pruned drop else inner.pruned drop ++ rest.pruned drop

@[simp] theorem ofNodes_nodes (c : Content κ) : ofNodes c.nodes = c := by
  induction c with
  | nil => rfl
  | text run rest ih => simp [nodes, ofNodes, ih]
  | element head inner rest _ ih => simp [nodes, ofNodes, ih]

theorem heads_mapHeads (f : Head κ → Head μ) (c : Content κ) :
    (c.mapHeads f).heads = c.heads.map f := by
  induction c with
  | nil => rfl
  | text run rest ih => simpa [mapHeads, heads] using ih
  | element head inner rest ih₁ ih₂ => simp [mapHeads, heads, ih₁, ih₂]

theorem heads_mapNumbered (f : Nat → Head κ → Head μ) (next : Nat) (c : Content κ) :
    (c.mapNumbered f next).heads = c.heads.mapIdx fun i => f (next + i) := by
  induction c generalizing next with
  | nil => rfl
  | text run rest ih => simpa [mapNumbered, heads] using ih next
  | element head inner rest ih₁ ih₂ =>
    simp [mapNumbered, heads, ih₁, ih₂, List.mapIdx_cons, List.mapIdx_append, Nat.add_assoc,
      Nat.add_comm 1, Nat.add_left_comm]

end Content

namespace Element

def new (key : κ) (tag : String) (attributes : Attributes) (content : Content κ) : Element κ :=
  ⟨.new key tag attributes, content⟩

def heads (e : Element κ) : List (Head κ) := e.head :: e.content.heads

def mapHeads (f : Head κ → Head μ) (e : Element κ) : Element μ := ⟨f e.head, e.content.mapHeads f⟩

def mapNumbered (f : Nat → Head κ → Head μ) (e : Element κ) : Element μ :=
  ⟨f 0 e.head, e.content.mapNumbered f 1⟩

/-- The element without the elements in it that an overlay owns: those whose id has the
stem. The element itself always stays. -/
def withoutOverlays (stem : String) (e : Element κ) : Element κ :=
  ⟨e.head, e.content.prune (·.hasIdStem stem)⟩

/-- The overlay elements that are left out; those inside them are not listed. -/
def overlays (stem : String) (e : Element κ) : List (Head κ) := e.content.pruned (·.hasIdStem stem)

end Element

end Clipping.Markup

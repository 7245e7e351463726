import Clipping.Markup.Node

/-! Editing a tree in place. A path leads to a node by positions among children; a negative
position counts from the last child. -/
namespace Clipping.Markup

variable {κ : Type}

inductive EditFault where
  | notElement
  | outOfRange
  deriving DecidableEq, Repr

def index? (count : Nat) (position : Int) : Option Nat :=
  let i := if position < 0 then position + count else position
  if 0 ≤ i ∧ i < count then some i.toNat else none

/-- Where an inserted child goes: a position beyond an end is that end. -/
def insertionIndex (count : Nat) (position : Int) : Nat :=
  let i := if position < 0 then position + count else position
  min i.toNat count

def insertAt {α : Type} (children : List α) (position : Int) (child : α) : List α :=
  children.insertIdx (insertionIndex children.length position) child

def removeAt {α : Type} (children : List α) (position : Int) : Except EditFault (α × List α) :=
  match index? children.length position with
  | none => .error .outOfRange
  | some i =>
    match children[i]? with
    | some child => .ok (child, children.eraseIdx i)
    | none => .error .outOfRange

inductive Edit (κ : Type) where
  | setAttribute (name value : String)
  | removeAttribute (name : String)
  | append (child : Node κ)
  | insert (position : Int) (child : Node κ)
  | remove (position : Int)
  | move (position target : Int)
  | setText (run : String)
  | setTag (tag : String)

namespace Element

def withNodes (children : List (Node κ)) (e : Element κ) : Element κ := ⟨e.head, .ofNodes children⟩

def edit (e : Element κ) : Edit κ → Except EditFault (Element κ)
  | .setAttribute name value =>
    .ok ⟨{ e.head with attributes := e.head.attributes.set name value }, e.content⟩
  | .removeAttribute name => .ok ⟨{ e.head with attributes := e.head.attributes.erase name }, e.content⟩
  | .append child => .ok (e.withNodes (e.content.nodes ++ [child]))
  | .insert position child => .ok (e.withNodes (insertAt e.content.nodes position child))
  | .remove position => (removeAt e.content.nodes position).map fun (_, rest) => e.withNodes rest
  | .move position target =>
    (removeAt e.content.nodes position).map fun (child, rest) => e.withNodes (insertAt rest target child)
  | .setText _ => .ok e
  | .setTag tag => .ok ⟨{ e.head with tag := tag }, e.content⟩

end Element

namespace Node

/-- An edit of the node itself. Only its text can change in a run of text. -/
def edit (n : Node κ) (change : Edit κ) : Except EditFault (Node κ) :=
  match n, change with
  | .element e, change => (e.edit change).map .element
  | .text _, .setText run => .ok (.text run)
  | .text run, .setTag _ => .ok (.text run)
  | .text _, _ => .error .notElement

def child (n : Node κ) (position : Int) : Except EditFault (Element κ × Nat × Node κ) :=
  match n with
  | .text _ => .error .notElement
  | .element e =>
    match index? e.content.nodes.length position with
    | none => .error .outOfRange
    | some i =>
      match e.content.nodes[i]? with
      | some child => .ok (e, i, child)
      | none => .error .outOfRange

def find (n : Node κ) : List Int → Except EditFault (Node κ)
  | [] => .ok n
  | position :: path => do
    let (_, _, inner) ← n.child position
    inner.find path

def editAt (change : Edit κ) (n : Node κ) : List Int → Except EditFault (Node κ)
  | [] => n.edit change
  | position :: path => do
    let (e, i, inner) ← n.child position
    let edited ← inner.editAt change path
    return .element (e.withNodes (e.content.nodes.set i edited))

def heads : Node κ → List (Head κ)
  | .text _ => []
  | .element e => e.heads

/-- The copy with new keys from a number on; tags are in lower case again. -/
def copy (next : Nat) : Node κ → Node Nat
  | .text run => .text run
  | .element e => .element (e.mapNumbered fun i h => .new (next + i) h.tag h.attributes)

end Node

end Clipping.Markup

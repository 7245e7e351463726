import Clipping.Artifacts
import Clipping.Capture.Binding
import Clipping.Markup.Editing

/-! A tree that is edited between exports. Style objects stay bound to the elements that
they were bound to; elements that are made later have no answers. A saved copy that is
restored becomes the tree itself, so further edits change what was saved. -/
namespace Clipping

open Markup

structure Session where
  config : Config
  trees : List (Node Nat)
  current : Nat
  saved : Assoc Nat
  /-- The first key that no element has. -/
  fresh : Nat
  binding : Binding Nat

namespace Session

inductive Fault where
  | edit (f : EditFault)
  | notSaved
  | binding (f : Binding.Fault)
  deriving DecidableEq, Repr

def start (config : Config) (e : Element Nat) (styles : List Json) : Except Binding.Fault Session :=
  (Binding.ofStyles (e.walk config.overlayStem) styles).map fun b =>
    ⟨config, [.element e], 0, .empty, e.heads.length, b⟩

def tree (s : Session) : Node Nat := (s.trees[s.current]?).getD (.text "")

/-- The node as an element of the session, with keys of its own. -/
def adopt {κ : Type} (s : Session) (n : Node κ) : Session × Node Nat :=
  ({ s with fresh := s.fresh + n.heads.length }, n.copy s.fresh)

def edit (s : Session) (path : List Int) (change : Edit Nat) : Except Fault Session :=
  match s.tree.editAt change path with
  | .ok edited => .ok { s with trees := s.trees.set s.current edited }
  | .error f => .error (.edit f)

def find (s : Session) (path : List Int) : Except Fault (Node Nat) :=
  (s.tree.find path).mapError .edit

def save (s : Session) (path : List Int) (name : String) : Except Fault Session :=
  (s.find path).map fun n =>
    let (s, copy) := s.adopt n
    { s with trees := s.trees ++ [copy], saved := s.saved.set name s.trees.length }

/-- Makes the saved copy the tree. -/
def restore (s : Session) (name : String) : Except Fault Session :=
  match s.saved.get? name with
  | some i => .ok { s with current := i }
  | none => .error .notSaved

def element (s : Session) : Except Fault (Element Nat) :=
  match s.tree with
  | .element e => .ok e
  | .text _ => .error (.edit .notElement)

def resolve (s : Session) (path : List Int) (property : String) : Except Fault String :=
  (s.find path).map fun
    | .element e => s.binding.resolve e.head.key property
    | .text _ => ""

/-- Binds other style objects to the tree as it is now. -/
def rebind (s : Session) (styles : List Json) : Except Fault Session :=
  match s.element with
  | .error f => .error f
  | .ok e =>
    match Binding.ofStyles (e.walk s.config.overlayStem) styles with
    | .ok b => .ok { s with binding := b }
    | .error f => .error (.binding f)

def clip (s : Session) : Except Fault (Clip Nat) :=
  s.element.map fun e => .ofElement s.config s.binding.resolve e

end Session

end Clipping

import Clipping.Capture.Record
import Clipping.Json.Printer

/-! Binding a list of style objects to a tree by position: the objects answer for the
elements of the walk, one each, and every other element has no answers. -/
namespace Clipping

open Markup

variable {κ : Type}

/-- Style objects with the keys of their elements. -/
structure Binding (κ : Type) where
  entries : List (κ × List (String × Json))

namespace Binding

inductive Fault where
  | mismatch (elements styles : Nat)
  | notObject (position : Nat)
  deriving DecidableEq, Repr

/-- The value of a property as a text; null is the empty one. -/
def valueText : Json → String
  | .null => ""
  | v => v.display

/-- Gives keys to objects from a position on, up to the first item that is no object. -/
def ofItems (position : Nat) : List κ → List Json → Except Fault (List (κ × List (String × Json)))
  | key :: keys, item :: items =>
    match item.fields? with
    | none => .error (.notObject position)
    | some fields => (ofItems (position + 1) keys items).map ((key, fields) :: ·)
  | _, _ => .ok []

/-- Binds style objects to the elements of a walk. Their number must be the same. -/
def ofStyles (walk : List (Visit κ)) (styles : List Json) : Except Fault (Binding κ) :=
  if walk.length = styles.length then
    (ofItems 0 (walk.map (·.head.key)) styles).map Binding.mk
  else .error (.mismatch walk.length styles.length)

/-- The answer for a property; the empty text where there is none. Of objects with one key the
last counts. -/
def resolve [DecidableEq κ] (b : Binding κ) : Resolver κ := fun key property =>
  match (b.entries.reverse.lookup key).bind (·.lookup property) with
  | some v => valueText v
  | none => ""

end Binding

end Clipping

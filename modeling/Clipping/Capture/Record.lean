import Clipping.Capture.Comparison
import Clipping.Capture.Walk
import Clipping.Config.Basic

/-! Records: for each element that the walk meets its number, tag and class name, and the
declarations that say something. -/
namespace Clipping

open Markup

variable {κ : Type}

structure Record where
  index : Nat
  tag : String
  className : String
  styles : Declarations

/-- What the page answers for a property of the element with a key. -/
abbrev Resolver (κ : Type) := κ → String → String

/-- The values of an element: the answers without the blanks around them. -/
def Resolver.values (resolve : Resolver κ) (key : κ) (property : String) : String :=
  strip (resolve key property)

namespace Record

def isEmpty (r : Record) : Bool := r.styles.isEmpty

def ofVisit (config : Config) (resolve : Resolver κ) (walk : List (Visit κ)) (v : Visit κ) : Record :=
  let parent := v.parent.bind fun i => walk[i]?
  ⟨v.index, v.head.tag, config.className v.index,
    Sieve.standard.compare v.head.tag (resolve.values v.head.key)
      (parent.map fun above => resolve.values above.head.key)⟩

def ofElement (config : Config) (resolve : Resolver κ) (e : Element κ) : List Record :=
  let walk := e.walk config.overlayStem
  walk.map (ofVisit config resolve walk)

end Record

end Clipping

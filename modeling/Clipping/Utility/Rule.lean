import Clipping.Style.Declarations
import Clipping.Utility.Output

/-! Rules compile the declarations of a few properties. A rule names the properties it
reads; what it emits is a function of their values alone. -/
namespace Clipping.Utility

structure Rule where
  id : String
  /-- The name of the kind of rule, for listings. -/
  kind : String
  properties : List String
  emit : Declarations → Output

namespace Rule

def shown (r : Rule) : String := "<" ++ r.kind ++ " " ++ r.id ++ ">"

def applies (r : Rule) (d : Declarations) : Bool := r.properties.any d.contains

end Rule

/-- A table of the tokens of keywords. -/
abbrev Keywords := List (String × String)

/-- What the value of a property gives, if it is declared. -/
def declared (d : Declarations) (property : String) (f : String → Output) : Output :=
  match d.get? property with
  | some value => f value
  | none => .none

def keyword (table : Keywords) (literal property value : String) : Output :=
  match table.lookup value with
  | some token => if token.isEmpty then .unmapped literal property value else .token token
  | none => .unmapped literal property value

/-- A property of keywords; any other value keeps its declaration. -/
def mapped (d : Declarations) (property : String) (table : Keywords) : Output :=
  declared d property fun v => keyword table (Literal.declaration property v) property v

/-- A property of keywords; any other value follows a stem. -/
def mappedAfter (stem : String) (d : Declarations) (property : String) (table : Keywords) : Output :=
  declared d property fun v => keyword table (Literal.value stem v) property v

/-- A property whose value is always a literal. -/
def verbatim (d : Declarations) (property : String) : Output :=
  declared d property fun v => .declaration property v

def colored (d : Declarations) (stem property : String) : Output :=
  declared d property fun v => .color stem property v

/-- A property of lengths, some of which have names of their own. -/
def measured (d : Declarations) (stem property : String) (names : Keywords) : Output :=
  declared d property fun v =>
    match names.lookup v with
    | some name => .token (stem ++ "-" ++ name)
    | none => .length stem property v

end Clipping.Utility

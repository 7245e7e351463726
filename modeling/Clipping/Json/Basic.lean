import Clipping.Assoc
import Clipping.Number.Binary64

/-! JSON values. Integers and binary64 numbers stay apart, and the fields of an object
keep their order; no two of them share a name. -/
namespace Clipping

inductive Json where
  | null
  | boolean (b : Bool)
  | integer (n : Int)
  | real (x : Binary64)
  | text (s : String)
  | array (items : List Json)
  | object (fields : List (String × Json))

namespace Json

def fields? : Json → Option (List (String × Json))
  | object fields => some fields
  | _ => none

def items? : Json → Option (List Json)
  | array items => some items
  | _ => none

def text? : Json → Option String
  | text s => some s
  | _ => none

/-- The field of that name, of an object. -/
def field? (name : String) : Json → Option Json
  | object fields => fields.lookup name
  | _ => none

end Json

end Clipping

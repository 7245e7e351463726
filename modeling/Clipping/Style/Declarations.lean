import Clipping.Assoc

/-! Style declarations: the values of properties, in order. -/
namespace Clipping

abbrev Declarations := Assoc String

/-- The value of a name; the empty text where there is none. -/
def Assoc.value (d : Assoc String) (name : String) : String := (d.get? name).getD ""

end Clipping

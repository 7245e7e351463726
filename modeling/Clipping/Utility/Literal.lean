import Clipping.Text.Blank

/-! Literal tokens: values and declarations that no utility class has a name for, in
square brackets. A token is one word, so blanks become low lines. -/
namespace Clipping.Literal

def escaped (value : String) : String :=
  String.ofList (Text.underscored (Text.trim value.toList))

def bracketed (value : String) : String := "[" ++ escaped value ++ "]"

/-- The token `stem-[value]`. -/
def value (stem v : String) : String := stem ++ "-" ++ bracketed v

/-- The token `[property:value]`. -/
def declaration (property v : String) : String := "[" ++ property ++ ":" ++ escaped v ++ "]"

end Clipping.Literal

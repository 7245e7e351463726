import Clipping.Style.Declarations

/-! Stylesheets: a rule for each class name with declarations. -/
namespace Clipping.Stylesheet

/-- A rule with one declaration a line; without declarations there is none. -/
def rule (indentWidth : Nat) (className : String) (styles : Declarations) : String :=
  let margin := String.ofList (List.replicate indentWidth ' ')
  if styles.isEmpty then ""
  else String.intercalate "\n" (("." ++ className ++ " \x7b") ::
    styles.entries.map (fun (property, value) => margin ++ property ++ ": " ++ value ++ ";") ++ ["\x7d"])

/-- The rules in order, with a blank line between them. -/
def print (indentWidth : Nat) (rules : List (String × Declarations)) : String :=
  String.intercalate "\n\n"
    ((rules.map fun (className, styles) => rule indentWidth className styles).filter (!·.isEmpty))

end Clipping.Stylesheet

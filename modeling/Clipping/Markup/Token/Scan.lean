import Clipping.Json.Printer
import Clipping.Markup.Token.Step

/-! Scanning markup into tokens. Where the scan halts for the second time, the rest is text;
raw content that does not end is lost. -/
namespace Clipping.Markup

def Rejection.message : Rejection → String
  | .unknownSection keyword =>
    "AssertionError: unknown status keyword " ++ Json.shownText keyword ++ " in marked section"
  | .unnamedSection context => "AssertionError: expected name token at " ++ Json.shownText context

namespace Token

def scanFrom (again : Bool) (raw : Option String) (s : List Char) : Except Rejection (List Token) :=
  match _step : Step.next again raw s with
  | .advance tokens raw rest => (scanFrom again raw rest).map (tokens ++ ·)
  | .halt tokens rest =>
    if again then .ok (tokens ++ if raw.isSome then [] else Step.textIfAny rest)
    else (scanFrom true raw rest).map (tokens ++ ·)
  | .reject cause => .error cause
termination_by (if again then 0 else 1, s.length)
decreasing_by
  · have := Step.next_shorter _step
    exact Prod.Lex.right _ this
  · next h => exact Prod.Lex.left _ _ (by simp [h])

def scan (s : String) : Except Rejection (List Token) := scanFrom false none s.toList

/-- Behind a place the scan meets a number with too many digits, before it ends or rejects. -/
def meetsOverlong (again : Bool) (raw : Option String) (s : List Char) : Bool :=
  Step.isOverlong raw s ||
    match _step : Step.next again raw s with
    | .advance _ raw rest => meetsOverlong again raw rest
    | .halt _ rest => if again then false else meetsOverlong true raw rest
    | .reject _ => false
termination_by (if again then 0 else 1, s.length)
decreasing_by
  · have := Step.next_shorter _step
    exact Prod.Lex.right _ this
  · next h => exact Prod.Lex.left _ _ (by simp [h])

/-- The markup has a number with too many digits where references are read. -/
def isOverlong (s : String) : Bool := meetsOverlong false none s.toList

end Token

end Clipping.Markup

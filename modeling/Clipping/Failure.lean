import Clipping.Capture.Binding
import Clipping.Config.Reading
import Clipping.Json.Reader
import Clipping.Markup.Fragment
import Clipping.Report

/-! Why an export from files fails. A failure has a report; whatever else stops an export
is a fault of a file, of the markup or of a numeral, and has none. -/
namespace Clipping

inductive Failure where
  | missingInput (path : String)
  | noElement
  | mismatch (elements styles : Nat)
  | notObject (position : Nat)
  | malformedStyles (path : String)
  | stylesNotList (path : String)
  | missingConfig (path : String)
  | malformedConfig (path : String)
  | configNotObject (path : String)
  | invalidConfig (issues : List Config.Issue) (path : Option String)

/-- The report of a failure. What a reader of JSON or of settings has to say itself about a text that
it refuses is no part of the message. -/
def Failure.report : Failure → Report
  | missingInput path => .missingInput path
  | noElement => .invalidSnapshot "Markup contains no element" none
  | mismatch elements styles => .mismatch elements styles
  | notObject position =>
    .invalidSnapshot ("Style entry " ++ toString position ++ " is not an object") none
  | malformedStyles path => .invalidSnapshot "Style snapshot is not valid JSON" (some path)
  | stylesNotList path => .invalidSnapshot "Style snapshot must be a JSON list" (some path)
  | missingConfig path => .invalidConfig ("Config file not found: " ++ path) (some path) none
  | malformedConfig path => .invalidConfig "Config file is not valid JSON" (some path) none
  | configNotObject path => .invalidConfig "Config file must contain a JSON object" (some path) none
  | invalidConfig _ path => .invalidConfig "Invalid configuration" path none

inductive FileFault where
  | missing
  | directory
  | notDirectory
  | occupied
  | undecodable
  deriving DecidableEq, Repr

inductive Stop where
  | failure (f : Failure)
  | file (f : FileFault)
  | rejected (cause : Markup.Rejection)
  /-- An integer has more digits than are read. -/
  | numeral
  /-- The log cannot be set up. -/
  | log

def Stop.ofRead : Markup.ReadFault → Stop
  | .rejected cause => .rejected cause
  | .noElement => .failure .noElement

def Stop.ofPage : Markup.PageFault → Stop
  | .unread fault => ofRead fault
  | .numeral => .numeral

def Stop.ofBinding : Binding.Fault → Stop
  | .mismatch elements styles => .failure (.mismatch elements styles)
  | .notObject position => .failure (.notObject position)

/-- A text that is no JSON is a failure of the given kind. -/
def Stop.ofJson (malformed : Failure) : Json.Fault → Stop
  | .malformed => .failure malformed
  | .tooManyDigits => .numeral

end Clipping

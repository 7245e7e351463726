import Clipping.Assoc
import Clipping.Json.Printer

/-! Reports of failures: what went wrong, what to do about it, and the exit code. -/
namespace Clipping

inductive Category where
  | fileSystem
  | input
  | configuration
  deriving DecidableEq, Repr

def Category.name : Category → String
  | .fileSystem => "file_system"
  | .input => "input"
  | .configuration => "configuration"

structure Report where
  category : Category
  message : String
  suggestion : Option String
  details : Option (Assoc Json)
  exitCode : Int

namespace Report

structure Palette where
  alert : String
  advice : String
  faint : String
  plain : String

def Palette.of (colored : Bool) : Palette :=
  if colored then ⟨"\x1b[91m", "\x1b[96m", "\x1b[2m", "\x1b[0m"⟩ else ⟨"", "", "", ""⟩

/-- A line for the message, one for the suggestion and one for each detail. -/
def format (colored : Bool) (r : Report) : String :=
  let p := Palette.of colored
  let advice := (r.suggestion.getD "")
  String.intercalate "\n" ([p.alert ++ "Error:" ++ p.plain ++ " " ++ r.message] ++
    (if advice.isEmpty then [] else [p.advice ++ "Suggestion:" ++ p.plain ++ " " ++ advice]) ++
    (r.details.getD .empty).entries.map fun (name, v) =>
      p.faint ++ "  " ++ name ++ ": " ++ v.display ++ p.plain)

/-- Colours are for terminals, and only if nothing forbids them. -/
def isColored (forbidden : Bool) (terminal : Option Bool) : Bool := !forbidden && terminal.getD false

/-- One detail, unless it is empty. -/
def detail? (name : String) (v : Option String) : Option (Assoc Json) :=
  match v with
  | some v => if v.isEmpty then none else some (.ofList [(name, .text v)])
  | none => none

def missingInput (path : String) : Report where
  category := .fileSystem
  message := "Input file not found: " ++ path
  suggestion := some "Verify the path exists and you have read permissions"
  details := some (.ofList [("path", .text path)])
  exitCode := 1

def invalidSnapshot (message : String) (source : Option String) : Report where
  category := .input
  message := message
  suggestion := some ("The style snapshot must be a JSON list with one " ++
    "\x7bproperty: value\x7d object per element, in document order")
  details := detail? "source" source
  exitCode := 2

def mismatch (elements styles : Int) : Report where
  category := .input
  message := "Style snapshot has " ++ toString styles ++ " entries but the markup contains " ++
    toString elements ++ " elements"
  suggestion := some "Capture the snapshot from the same subtree as the markup"
  details := some (.ofList [("elements", .integer elements), ("styles", .integer styles)])
  exitCode := 2

def configAdvice : String := "Check your configuration file syntax and required fields"

def invalidConfig (message : String) (file suggestion : Option String) : Report where
  category := .configuration
  message := message
  suggestion := match suggestion with
    | some s => some (if s.isEmpty then configAdvice else s)
    | none => some configAdvice
  details := detail? "config_file" file
  exitCode := 1

end Report

end Clipping

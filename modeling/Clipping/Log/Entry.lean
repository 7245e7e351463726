import Clipping.Json.Printer

/-! Entries of the log, and their lines. -/
namespace Clipping.Log

/-- Levels are ranks; some of them have names. -/
structure Level where
  rank : Int
  deriving DecidableEq, Repr

namespace Level

def unset : Level := ⟨0⟩
def debug : Level := ⟨10⟩
def info : Level := ⟨20⟩
def warning : Level := ⟨30⟩

def names : List (Int × String) := [
  (50, "CRITICAL"), (40, "ERROR"), (30, "WARNING"), (20, "INFO"), (10, "DEBUG"), (0, "NOTSET")]

/-- Further names of levels. -/
def aliases : List (String × Int) := [("FATAL", 50), ("WARN", 30)]

def name (l : Level) : String := (names.lookup l.rank).getD ("Level " ++ toString l.rank)

def named? (s : String) : Option Level :=
  match names.find? (·.2 == s) with
  | some (rank, _) => some ⟨rank⟩
  | none => (aliases.lookup s).map Level.mk

end Level

/-- The stages of a clipping, which log under names of their own. -/
inductive Stage where
  | extract
  | compile
  | render
  | cli
  deriving DecidableEq, Repr

def Stage.name : Stage → String
  | extract => "extract"
  | compile => "compile"
  | render => "render"
  | cli => "cli"

def Stage.named? (s : String) : Option Stage := [extract, compile, render, cli].find? (·.name == s)

def rootName : String := "element_copier"

def loggerName (stage : Option Stage) : String :=
  match stage with
  | none => rootName
  | some s => rootName ++ "." ++ s.name

structure Origin where
  unit : String
  function : String
  line : Nat

structure Entry where
  level : Level
  logger : String
  message : String
  context : List (String × Json)
  origin : Option Origin
  failure : Option String

/-- The fields of a context that lines in JSON have, in their order. -/
def contextFields : List String := ["node_index", "property", "value", "token", "node_count"]

namespace Entry

def note (level : Level) (stage : Option Stage) (message : String) (context : List (String × Json)) :
    Entry := ⟨level, loggerName stage, message, context, none, none⟩

/-- A fault of the named kind, with its text if it has one. -/
def failureText (kind text : String) : String := if text.isEmpty then kind else kind ++ ": " ++ text

def toJson (e : Entry) : Json :=
  let origin := match e.origin with
    | some o => [("module", .text o.unit), ("function", .text o.function), ("line", .integer o.line)]
    | none => []
  let failed := match e.failure with
    | some text => [("exception", .text text)]
    | none => []
  .object ([("level", .text e.level.name), ("logger", .text e.logger)] ++ origin ++
    [("message", .text e.message)] ++
    contextFields.filterMap (fun name => (e.context.lookup name).map (name, ·)) ++ failed)

def fileLine (e : Entry) : String := e.level.name ++ " | " ++ e.logger ++ " | " ++ e.message

def consoleLine (e : Entry) : String := e.level.name ++ " | " ++ e.message

end Entry

end Clipping.Log

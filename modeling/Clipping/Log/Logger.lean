import Clipping.Log.Entry

/-! The logger of the program: its level and the handlers that its entries go to. -/
namespace Clipping.Log

inductive Format where
  | text
  | json
  deriving DecidableEq, Repr

inductive Target where
  | console
  | file (path : String) (format : Format) (maxBytes backups : Int)
  deriving DecidableEq, Repr

/-- A handler; its key tells it from all others that were ever made. -/
structure Handler where
  key : Nat
  target : Target
  level : Level
  deriving DecidableEq, Repr

structure Logger where
  level : Level
  /-- Entries go on to what is above the program's logger. -/
  propagates : Bool
  handlers : List Handler
  /-- The key of the next handler. -/
  made : Nat
  deriving DecidableEq, Repr

/-- What a log is set up with. The level is missing if it has no such name. -/
structure Settings where
  level : Option Level
  quiet : Bool
  verbose : Bool
  file : Option String
  format : Format
  maxBytes : Int
  backups : Int

namespace Settings

def standard : Settings := ⟨some .info, false, false, none, .text, 10485760, 3⟩

def consoleLevel (s : Settings) : Option Level := if s.verbose then some .debug else s.level

end Settings

def Handler.withLevel (level : Level) (h : Handler) : Handler := { h with level := level }

def Handler.isFile (h : Handler) : Bool :=
  match h.target with
  | .file _ _ _ _ => true
  | .console => false

namespace Logger

def start : Logger := ⟨.unset, true, [], 0⟩

/-- New handlers instead of the old ones: the console first unless it is quiet, then the
file. An unknown level of the console changes nothing. -/
def setup (s : Settings) (l : Logger) : Option Logger :=
  let file (key : Nat) : List Handler := match s.file with
    | some path => [⟨key, .file path s.format s.maxBytes s.backups, .debug⟩]
    | none => []
  if s.quiet then some ⟨.debug, false, file l.made, l.made + 1⟩
  else s.consoleLevel.map fun level =>
    ⟨.debug, false, ⟨l.made, .console, level⟩ :: file (l.made + 1), l.made + 2⟩

/-- The least level that is logged; without one of its own the logger takes warnings. -/
def threshold (l : Logger) : Level := if l.level = .unset then .warning else l.level

def isEnabled (l : Logger) (level : Level) : Bool := l.threshold.rank ≤ level.rank

def takers (l : Logger) (e : Entry) : List Handler :=
  if l.isEnabled e.level then l.handlers.filter fun h => h.level.rank ≤ e.level.rank else []

/-- Sets the levels of handlers back by their places. -/
def restored : List Handler → List Level → List Handler
  | h :: handlers, level :: levels => h.withLevel level :: restored handlers levels
  | handlers, _ => handlers

/-- Runs a body while everything is logged, and sets the levels back after it. -/
def debugContext (body : Logger → Logger) (l : Logger) : Logger :=
  let inside := body { l with level := .debug, handlers := l.handlers.map (·.withLevel .debug) }
  { inside with level := l.level, handlers := restored inside.handlers (l.handlers.map Handler.level) }

/-- What an entry writes on the console. Without any handler a warning appears bare. -/
def consoleText (l : Logger) (e : Entry) : String :=
  if l.handlers.isEmpty then
    if l.isEnabled e.level && Level.warning.rank ≤ e.level.rank then e.message ++ "\n" else ""
  else if (l.takers e).any (!·.isFile) then e.consoleLine ++ "\n" else ""

def fileLines (l : Logger) (e : Entry) : List (String × String) :=
  (l.takers e).filterMap fun h =>
    match h.target with
    | .console => none
    | .file path .text _ _ => some (path, e.fileLine)
    | .file path .json _ _ => some (path, e.toJson.line)

end Logger

end Clipping.Log

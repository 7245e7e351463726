import Clipping.Artifacts
import Clipping.Files.Path
import Clipping.Log.Logger

/-! The command line: options anywhere after the command, then the page and the styles.
The first thing that is wrong is reported; values are looked at in the order in which
their options came. -/
namespace Clipping.Program

structure Request where
  page : Path
  styles : Path
  config : Option Path
  rendition : Rendition
  output : Option Path
  verbose : Bool
  quiet : Bool
  logFile : Option Path
  logFormat : Log.Format

inductive Usage where
  | unknownOption (option : String)
  | unknownCommand (name : String)
  | noCommand
  | noValue (option : String)
  | needlessValue (option : String)
  | badChoice (option value : String) (choices : List String)
  | missing (argument : String)
  | extra (arguments : List String)

namespace Usage

def message : Usage → String
  | unknownOption option => "No such option " ++ Json.shownText option ++ "."
  | unknownCommand name => "No such command " ++ Json.shownText name ++ "."
  | noCommand => "Missing command."
  | noValue option => "Option " ++ Json.shownText option ++ " requires an argument."
  | needlessValue option => "Option " ++ Json.shownText option ++ " does not take a value."
  | badChoice option value choices =>
    "Invalid value for '" ++ option ++ "': " ++ Json.shownText value ++ " is not one of " ++
      String.intercalate ", " (choices.map Json.shownText) ++ "."
  | missing argument => "Missing argument '" ++ argument ++ "'."
  | extra arguments =>
    "Got unexpected extra argument" ++ (if arguments.length = 1 then " (" else "s (") ++
      String.intercalate " " arguments ++ ")"

end Usage

inductive Command where
  | clip (r : Request)
  | version
  | help
  | commandHelp
  /-- Without arguments the help is shown as an error. -/
  | bare

/-- The options of the command, by what they set. -/
inductive Switch where
  | config
  | format
  | output
  | verbose
  | quiet
  | logFile
  | logFormat
  | help
  deriving DecidableEq, Repr

namespace Switch

def long : List (String × Switch) := [
  ("--config", config), ("--format", format), ("--output", output), ("--verbose", verbose),
  ("--quiet", quiet), ("--log-file", logFile), ("--log-format", logFormat), ("--help", help)]

def short : List (Char × Switch) := [('o', output), ('v', verbose), ('q', quiet)]

def takesValue : Switch → Bool
  | verbose | quiet | help => false
  | _ => true

end Switch

def renditions : List (String × Rendition) := [
  ("raw", .raw), ("json", .json), ("html", .html), ("css", .css), ("utility", .utility)]

def logFormats : List (String × Log.Format) := [("text", .text), ("json", .json)]

/-- The options in the order in which they came, each with its value, and what is left. -/
structure Parsed where
  given : List (Switch × String)
  left : List String

/-- An option that is given more than once stands at its first place with its last value. -/
def Parsed.value? (p : Parsed) (o : Switch) : Option String :=
  (p.given.reverse.find? (·.1 == o)).map (·.2)

/-- Letters after one dash. A letter that takes a value takes the letters after it, or else
the next argument, which is the result's second part if it is not used. -/
def letters (next : Option String) : List Char → Except Usage (List (Switch × String) × Bool)
  | [] => .ok ([], false)
  | c :: rest =>
    match Switch.short.lookup c with
    | none => .error (.unknownOption (String.ofList ['-', c]))
    | some o =>
      if o.takesValue then
        if !rest.isEmpty then .ok ([(o, String.ofList rest)], false)
        else match next with
          | some value => .ok ([(o, value)], true)
          | none => .error (.noValue (String.ofList ['-', c]))
      else (letters next rest).map fun (more, used) => ((o, "") :: more, used)

/-- One argument that starts with a dash: the options it gives, and whether the next
argument is the value of the last one. -/
def dashed (argument : String) (next : Option String) : Except Usage (List (Switch × String) × Bool) :=
  let name := String.ofList (argument.toList.takeWhile (· != '='))
  let value := if argument.toList.contains '=' then
      some (String.ofList ((argument.toList.dropWhile (· != '=')).drop 1))
    else none
  match Switch.long.lookup name with
  | some o =>
    if o.takesValue then
      match value with
      | some v => .ok ([(o, v)], false)
      | none =>
        match next with
        | some v => .ok ([(o, v)], true)
        | none => .error (.noValue name)
    else match value with
      | some _ => .error (.needlessValue name)
      | none => .ok ([(o, "")], false)
  | none =>
    if argument.toList.take 2 == ['-', '-'] then .error (.unknownOption name)
    else letters next (argument.toList.drop 1)

def isDashed (argument : String) : Bool := argument.toList.head? == some '-' && 1 < argument.length

/-- Splits arguments into options and what is left; after two dashes nothing is an option. -/
def parse : List String → Except Usage Parsed
  | [] => .ok ⟨[], []⟩
  | argument :: rest =>
    if argument == "--" then .ok ⟨[], rest⟩
    else if isDashed argument then
      match dashed argument rest.head? with
      | .error u => .error u
      | .ok (found, false) => (parse rest).map fun p => ⟨found ++ p.given, p.left⟩
      | .ok (found, true) =>
        match rest with
        | [] => .ok ⟨found, []⟩
        | _ :: rest => (parse rest).map fun p => ⟨found ++ p.given, p.left⟩
    else (parse rest).map fun p => { p with left := argument :: p.left }

def choice {α : Type} (option : String) (choices : List (String × α)) (value : String) :
    Except Usage α :=
  match choices.lookup value with
  | some v => .ok v
  | none => .error (.badChoice option value (choices.map Prod.fst))

/-- Looks at the values of options that have choices, in the order of the options. -/
def check (p : Parsed) : List (Switch × String) → Except Usage Unit
  | [] => .ok ()
  | (o, _) :: rest => do
    let value := (p.value? o).getD ""
    match o with
    | .format => let _ ← choice "--format" renditions value
    | .logFormat => let _ ← choice "--log-format" logFormats value
    | _ => pure ()
    check p rest

/-- The request of the command's arguments. -/
def request (arguments : List String) : Except Usage Command := do
  let p ← parse arguments
  if (p.value? .help).isSome then return .commandHelp
  check p p.given
  match p.left with
  | [] => throw (.missing "PAGE")
  | [_] => throw (.missing "STYLES")
  | page :: styles :: rest =>
    if !rest.isEmpty then throw (.extra rest)
    let path (o : Switch) : Option Path := (p.value? o).map Path.read
    let rendition := ((p.value? .format).bind fun v => renditions.lookup v).getD .raw
    let logFormat := ((p.value? .logFormat).bind fun v => logFormats.lookup v).getD .text
    return .clip ⟨.read page, .read styles, path .config, rendition, path .output,
      (p.value? .verbose).isSome, (p.value? .quiet).isSome, path .logFile, logFormat⟩

/-- An option before the command: only those of the program itself. -/
def programOption (argument : String) : Except Usage Command :=
  let name := String.ofList (argument.toList.takeWhile (· != '='))
  match [("--version", Command.version), ("--help", Command.help)].lookup name with
  | some c => if argument == name then .ok c else .error (.needlessValue name)
  | none =>
    .error (.unknownOption (if argument.toList.take 2 == ['-', '-'] then name
      else String.ofList (argument.toList.take 2)))

/-- The options before the command, and the arguments from the command on. -/
def programOptions : List String → Except Usage (List Command × List String)
  | [] => .ok ([], [])
  | argument :: rest =>
    if argument == "--" then .ok ([], rest)
    else if isDashed argument then do
      let c ← programOption argument
      let (more, rest) ← programOptions rest
      return (c :: more, rest)
    else .ok ([], argument :: rest)

/-- The command of a line. What is named like an option is looked at as one. -/
def Command.read (arguments : List String) : Except Usage Command := do
  if arguments.isEmpty then return .bare
  match ← programOptions arguments with
  | (c :: _, _) => return c
  | ([], []) => throw .noCommand
  | ([], name :: rest) =>
    if name == "export" then request rest
    else if isDashed name then
      match ← programOptions (name :: rest) with
      | (c :: _, _) => return c
      | ([], _) => throw (.unknownCommand name)
    else throw (.unknownCommand name)

end Clipping.Program

import Clipping.Files.Loading
import Clipping.Program.Arguments

/-! A run of the program, as a function from its arguments and surroundings to what it
prints, logs and writes. -/
namespace Clipping

open Markup

variable {κ : Type}

namespace Clip

/-- The warning about markup that is printed as it is, if it cannot be indented. -/
def indentEntries (read : Reader) (printed : String) : List Log.Entry :=
  let warning (cause : String) : List Log.Entry :=
    [.note .warning (some .render) ("Returning markup unformatted: " ++ cause) []]
  match read printed with
  | .ok _ => []
  | .error (.rejected cause) => warning cause.message
  | .error .noElement => warning "Fragment contains no element"

def fallbackEntry (f : Utility.Fallback) : Log.Entry :=
  .note .debug (some .compile) ("Fallback for " ++ f.property ++ ": " ++ f.token)
    [("property", .text f.property), ("value", .text f.value), ("token", .text f.token)]

/-- What a clipping logs: the count of its records, each fallback, each overlay that is left
out, markup that cannot be indented, and the whole. -/
def entries (read : Reader) (c : Clip κ) : List Log.Entry :=
  let count := c.records.length
  [.note .debug (some .extract) ("Extracted " ++ toString count ++ " element records, " ++
    toString (c.records.countP Record.isEmpty) ++ " without declarations") []] ++
  c.outputs.flatMap (fun o => o.fallbacks.map fallbackEntry) ++
  (c.source.overlays c.config.overlayStem).map (fun h =>
    .note .debug (some .render) ("Dropping overlay element #" ++ h.id) []) ++
  indentEntries read c.cleaned.print ++ indentEntries read c.utility.print ++
  [.note .debug none ("Exported <" ++ c.source.head.tag ++ "> with " ++ toString count ++ " elements")
    [("node_count", .integer count)]]

end Clip

namespace Program

/-- What a run leaves: its output, its files, its exit code and perhaps a fault. -/
structure Outcome where
  exitCode : Nat
  output : String
  errors : String
  store : Store
  fault : Option Stop

namespace Outcome

def refused (store : Store) (code : Nat) (message : String) : Outcome :=
  ⟨code, "", if message.isEmpty then "" else "Error: " ++ message ++ "\n", store, none⟩

end Outcome

structure Journal where
  errors : String
  store : Store

def Journal.add (l : Log.Logger) (j : Journal) (e : Log.Entry) : Journal :=
  ⟨j.errors ++ l.consoleText e,
    (l.fileLines e).foldl (fun s (path, line) => s.append (.read path) (line ++ "\n")) j.store⟩

def Journal.addAll (l : Log.Logger) (j : Journal) (entries : List Log.Entry) : Journal :=
  entries.foldl (·.add l) j

/-- Sets up the log: the folder of its file is made, and the file is opened. -/
def openLog (s : Store) (settings : Log.Settings) (l : Log.Logger) :
    Except Stop (Store × Log.Logger) := do
  let file := settings.file.map Path.read
  let s ← match file with
    | some p => (s.makeFolders p.parent).mapError .file
    | none => .ok s
  match l.setup settings, file with
  | none, _ => .error .log
  | some l, none => .ok (s, l)
  | some l, some p =>
    match s.opened p with
    | .ok s => .ok (s, l)
    | .error _ => .error .log

def settings (folder : String) (r : Request) : Log.Settings :=
  { Log.Settings.standard with
    quiet := r.quiet
    verbose := r.verbose
    file := r.logFile.map (·.text folder)
    format := r.logFormat }

def clip (reader : PageReader) (s : Surroundings) (r : Request) : Traced (Clip Nat) := do
  let config ← s.loadConfig r.config none
  let (e, b) ← s.loadSnapshotBy reader r.page r.styles config.overlayStem
  let clip := Clip.ofElement config b.resolve e
  ⟨clip.entries reader.read, .ok clip⟩

/-- Prints the artifacts, or writes them to the output file. -/
def deliver (folder : String) (r : Request) (l : Log.Logger) (j : Journal) (text : String) : Outcome :=
  match r.output with
  | none => ⟨0, text ++ "\n", j.errors, j.store, none⟩
  | some p =>
    match j.store.write p (text ++ "\n") with
    | .error f => ⟨1, "", j.errors, j.store, some (.file f)⟩
    | .ok store =>
      let name := ((renditions.find? fun entry => entry.2 == r.rendition).map Prod.fst).getD ""
      let done := (Journal.mk j.errors store).add l
        (.note .info (some .cli) ("Wrote " ++ name ++ " output to " ++ p.text folder) [])
      ⟨0, "", done.errors, done.store, none⟩

def executeBy (reader : PageReader) (s : Surroundings) (r : Request) : Outcome :=
  if r.quiet && r.verbose then
    .refused s.store 1 "--quiet and --verbose are mutually exclusive"
  else match openLog s.store (settings s.folder r) .start with
    | .error fault => ⟨1, "", "", s.store, some fault⟩
    | .ok (store, l) =>
      let traced := clip reader { s with store := store } r
      let j := (Journal.mk "" store).addAll l traced.entries
      match traced.result with
      | .ok c => deliver s.folder r l j ((c.artifactsBy reader.read).render r.rendition)
      | .error (.failure f) =>
        ⟨f.report.exitCode.toNat, "", j.errors ++ f.report.format s.colored ++ "\n", j.store, none⟩
      | .error fault => ⟨1, "", j.errors, j.store, some fault⟩

def execute (s : Surroundings) (r : Request) : Outcome := executeBy .standard s r

def versionText : String := "cli, version 0.1.0\n"

def helpText : String := "Usage: cli [OPTIONS] COMMAND [ARGS]...\n\n" ++
  "  Element Copier - export a rendered element as markup, CSS and Tailwind.\n\n" ++
  "Options:\n  --version  Show the version and exit.\n  --help     Show this message and exit.\n\n" ++
  "Commands:\n  export  Export PAGE (element markup) using STYLES (resolved style...\n"

def commandHelpText : String := "Usage: cli export [OPTIONS] PAGE STYLES\n\n" ++
  "  Export PAGE (element markup) using STYLES (resolved style snapshot).\n\n" ++
  "Options:\n" ++
  "  --config PATH                   Configuration file path\n" ++
  "  --format [raw|json|html|css|utility]\n" ++
  "                                  Artifact(s) to print\n" ++
  "  -o, --output PATH               Write the output to a file instead of stdout\n" ++
  "  -v, --verbose                   Enable verbose output\n" ++
  "  -q, --quiet                     Suppress non-error output\n" ++
  "  --log-file PATH                 Also log to this file\n" ++
  "  --log-format [text|json]        Log file format\n" ++
  "  --help                          Show this message and exit.\n"

/-- Runs the program. What is wrong with the command line is one line of errors. -/
def run (s : Surroundings) (arguments : List String) : Outcome :=
  match Command.read arguments with
  | .error u => .refused s.store 2 u.message
  | .ok .bare => .refused s.store 2 ""
  | .ok .version => ⟨0, versionText, "", s.store, none⟩
  | .ok .help => ⟨0, helpText, "", s.store, none⟩
  | .ok .commandHelp => ⟨0, commandHelpText, "", s.store, none⟩
  | .ok (.clip r) => execute s r

end Program

end Clipping

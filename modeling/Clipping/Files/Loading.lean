import Clipping.Capture.Binding
import Clipping.Files.Store
import Clipping.Log.Entry

/-! Loading settings and snapshots from files. Each step may log; a step that stops keeps
what was logged before it. -/
namespace Clipping

/-- A step: the entries that it logs, and its result unless it stops. -/
structure Traced (α : Type) where
  entries : List Log.Entry
  result : Except Stop α

namespace Traced

variable {α β : Type}

def pure (v : α) : Traced α := ⟨[], .ok v⟩

def stop (s : Stop) : Traced α := ⟨[], .error s⟩

def ofExcept (r : Except Stop α) : Traced α := ⟨[], r⟩

def note (e : Log.Entry) : Traced Unit := ⟨[e], .ok ()⟩

def bind (t : Traced α) (f : α → Traced β) : Traced β :=
  match t.result with
  | .ok v => ⟨t.entries ++ (f v).entries, (f v).result⟩
  | .error s => ⟨t.entries, .error s⟩

instance : Monad Traced where
  pure := pure
  bind := bind

end Traced

/-- What surrounds the program: the files, the name of its folder, the settings file that
its variables name, and whether errors are printed in colour. -/
structure Surroundings where
  store : Store
  folder : String
  config : Option String
  colored : Bool

namespace Surroundings

def debug (message : String) : Traced Unit := .note (.note .debug none message [])

def readText (s : Surroundings) (p : Path) : Traced String :=
  .ofExcept ((s.store.read p).mapError .file)

def configName : String := "element-copier.config.json"

def configVariable : String := "ELEMENT_COPIER_CONFIG"

def readConfig (s : Surroundings) (p : Path) : Traced Config := do
  let name := p.text s.folder
  debug ("Loading export config from " ++ name)
  let text ← s.readText p
  let v ← .ofExcept ((Json.read text).mapError (.ofJson (.malformedConfig name)))
  match v with
  | .object fields =>
    .ofExcept ((Config.read fields).mapError fun issues => .failure (.invalidConfig issues (some name)))
  | _ => .stop (.failure (.configNotObject name))

def projectConfig (s : Surroundings) (project : Path) : Traced Config := do
  let p := project.child configName
  if s.store.holds p then s.readConfig p
  else
    debug "No export config found, using defaults"
    return .standard

/-- Settings from the file that is given, or else from the one that the variable names, or
else from the project. -/
def loadConfig (s : Surroundings) (given project : Option Path) : Traced Config := do
  match given with
  | some p =>
    if s.store.holds p then s.readConfig p
    else .stop (.failure (.missingConfig (p.text s.folder)))
  | none =>
    let project := project.getD ⟨.folder, []⟩
    match s.config with
    | some name =>
      if name.isEmpty then s.projectConfig project
      else if s.store.holds (.read name) then s.readConfig (.read name)
      else
        .note (.note .warning none (configVariable ++ " points at missing file " ++ name) [])
        s.projectConfig project
    | none => s.projectConfig project

/-- The tree that a reader gives for a page, with the style objects bound to it. -/
def loadSnapshotBy (reader : Markup.PageReader) (s : Surroundings) (page styles : Path)
    (overlayStem : String) : Traced (Markup.Element Nat × Binding Nat) := do
  match [page, styles].find? fun p => !s.store.holds p with
  | some p => .stop (.failure (.missingInput (p.text s.folder)))
  | none =>
    let e ← .ofExcept ((reader.page (← s.readText page)).mapError .ofPage)
    let name := styles.text s.folder
    let v ← .ofExcept ((Json.read (← s.readText styles)).mapError (.ofJson (.malformedStyles name)))
    match v with
    | .array items =>
      debug ("Loaded snapshot with " ++ toString items.length ++ " style entries from " ++ name)
      let b ← .ofExcept ((Binding.ofStyles (e.walk overlayStem) items).mapError .ofBinding)
      return (e, b)
    | _ => .stop (.failure (.stylesNotList name))

def loadSnapshot (s : Surroundings) (page styles : Path) (overlayStem : String) :
    Traced (Markup.Element Nat × Binding Nat) :=
  s.loadSnapshotBy .standard page styles overlayStem

end Surroundings

end Clipping

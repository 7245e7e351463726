import Clipping.Program.Run

/-! The program: it reads the files that its arguments name, runs, and writes what the run
leaves. -/
open Clipping

def placeText (p : Place) : String := "/" ++ String.intercalate "/" (p.drop 1)

/-- The place that the names of a path lead to, whatever is there. -/
def plainPlace (s : Store) (p : Path) : Place :=
  p.parts.foldl (fun q name => if name == ".." then Store.above q else q ++ [name]) (s.origin p)

def loadPlace (s : Store) (p : Place) : IO Store := do
  try
    if ← (← IO.FS.realPath (placeText p)).isDir then
      return { s with folders := s.folders ++ [p] }
    let content ← IO.FS.readBinFile (placeText p)
    return { s with files := s.files ++ [(p, content)] }
  catch _ => return s

/-- Loads the place of a path, and the folder that it is in. -/
def loadPath (s : Store) (p : Path) : IO Store := do
  loadPlace (← loadPlace s (Store.above (plainPlace s p))) (plainPlace s p)

def namedPaths (arguments : List String) (config : Option String) : List Path :=
  match Program.Command.read arguments with
  | .ok (.clip r) =>
    [r.page, r.styles, .read Surroundings.configName] ++ r.config.toList ++ r.output.toList ++
      r.logFile.toList ++ (config.map Path.read).toList
  | _ => []

def savePlaces (before after : Store) : IO Unit := do
  for p in after.folders do
    unless before.folders.contains p do IO.FS.createDirAll (placeText p)
  for (p, content) in after.files do
    unless (before.files.lookup p).any (· == content) do IO.FS.writeBinFile (placeText p) content

def faultText : Stop → String
  | .file .missing => "a file or its folder is missing"
  | .file .directory => "a file is a folder"
  | .file .notDirectory => "a folder is a file"
  | .file .occupied => "a file stands in the place of a folder"
  | .file .undecodable => "a file is not UTF-8"
  | .rejected cause => cause.message
  | .numeral => "an integer has too many digits"
  | .log => "the log cannot be set up"
  | .failure f => f.report.message

def main (arguments : List String) : IO UInt32 := do
  let folder := (← IO.currentDir).toString
  let config ← IO.getEnv Surroundings.configVariable
  let forbidden := (← IO.getEnv "NO_COLOR").isSome
  let stderr ← IO.getStderr
  let base := "/" :: (Path.read folder).parts
  let before ← (namedPaths arguments config).foldlM loadPath ⟨base, [], []⟩
  let colored := Report.isColored forbidden (some (← stderr.isTty))
  let outcome := Program.run ⟨before, folder, config, colored⟩ arguments
  savePlaces before outcome.store
  (← IO.getStdout).putStr outcome.output
  stderr.putStr outcome.errors
  match outcome.fault with
  | some fault => stderr.putStrLn ("Error: " ++ faultText fault)
  | none => pure ()
  return outcome.exitCode.toUInt32

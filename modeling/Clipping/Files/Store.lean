import Clipping.Failure
import Clipping.Files.Path

/-! Stores of files. A place is a file or a folder, by its names from the root. A file
makes folders of all places above it, and so does the folder of the program. -/
namespace Clipping

abbrev Place := List String

structure Store where
  /-- The folder of the program. -/
  base : Place
  files : List (Place × ByteArray)
  folders : List Place

inductive Item where
  | file (content : ByteArray)
  | folder

namespace Store

def isFolder (s : Store) (p : Place) : Bool :=
  p.isPrefixOf s.base || s.folders.any (fun other => p.isPrefixOf other) ||
    s.files.any fun (other, _) => p.isPrefixOf other && p.length < other.length

def item? (s : Store) (p : Place) : Option Item :=
  match s.files.lookup p with
  | some content => some (.file content)
  | none => if s.isFolder p then some .folder else none

/-- The folder above; the root is above itself. -/
def above (p : Place) : Place := if p.length ≤ 1 then p else p.dropLast

/-- Walks from a place along names, all but the last of which are folders. -/
def walk (s : Store) (p : Place) : List String → Except FileFault Place
  | [] => .ok p
  | name :: names =>
    match s.item? p with
    | none => .error .missing
    | some (.file _) => .error .notDirectory
    | some .folder =>
      if name == ".." then s.walk (above p) names else s.walk (p ++ [name]) names

def origin (s : Store) (p : Path) : Place :=
  match p.anchor with
  | .root => ["/"]
  | _ => s.base

def place (s : Store) (p : Path) : Except FileFault Place := s.walk (s.origin p) p.parts

/-- Something stands at the path, however long its names are. -/
def holds (s : Store) (p : Path) : Bool :=
  match s.place p with
  | .ok q => (s.item? q).isSome
  | .error _ => false

/-- Both other line ends become line feeds. -/
def plainLines : List Char → List Char
  | '\r' :: '\n' :: rest => '\n' :: plainLines rest
  | '\r' :: rest => '\n' :: plainLines rest
  | c :: rest => c :: plainLines rest
  | [] => []

def decode (content : ByteArray) : Except FileFault String :=
  match String.fromUTF8? content with
  | some s => .ok (String.ofList (plainLines s.toList))
  | none => .error .undecodable

def read (s : Store) (p : Path) : Except FileFault String :=
  match s.place p with
  | .error f => .error f
  | .ok q =>
    match s.item? q with
    | none => .error .missing
    | some .folder => .error .directory
    | some (.file content) => decode content

def put (s : Store) (p : Place) (content : ByteArray) : Store :=
  if s.files.any (·.1 == p) then
    { s with files := s.files.map fun (other, old) => (other, if other == p then content else old) }
  else { s with files := s.files ++ [(p, content)] }

/-- The place that a file is written to: its folder is there, and it is no folder itself. -/
def target (s : Store) (p : Path) : Except FileFault Place :=
  match s.place p with
  | .error f => .error f
  | .ok q =>
    match s.item? q with
    | some .folder => .error .directory
    | _ => .ok q

def write (s : Store) (p : Path) (text : String) : Except FileFault Store :=
  (s.target p).map fun q => s.put q text.toUTF8

/-- Opens a file to add to it; a new one is empty. -/
def opened (s : Store) (p : Path) : Except FileFault Store :=
  (s.target p).map fun q => if (s.files.lookup q).isSome then s else s.put q ByteArray.empty

def append (s : Store) (p : Path) (text : String) : Store :=
  match s.place p with
  | .ok q =>
    match s.files.lookup q with
    | some content => s.put q (content ++ text.toUTF8)
    | none => s.put q text.toUTF8
  | .error _ => s

/-- Makes the folders along names from a place where they are missing. -/
def foldersAlong (s : Store) (p : Place) : List String → Except FileFault Store
  | [] => .ok s
  | name :: names =>
    if name == ".." then s.foldersAlong (above p) names
    else
      let q := p ++ [name]
      match s.item? q with
      | some .folder => s.foldersAlong q names
      | some (.file _) => .error (if names.isEmpty then .occupied else .notDirectory)
      | none => { s with folders := s.folders ++ [q] }.foldersAlong q names

def makeFolders (s : Store) (p : Path) : Except FileFault Store := s.foldersAlong (s.origin p) p.parts

end Store

end Clipping

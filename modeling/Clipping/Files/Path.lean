/-! Paths of files. Empty parts and single dots do not count. -/
namespace Clipping

/-- What the parts of a path start from: the folder of the program, named or not, or the
root of all folders. -/
inductive Anchor where
  | here
  | folder
  | root
  deriving DecidableEq, Repr

structure Path where
  anchor : Anchor
  parts : List String
  deriving DecidableEq, Repr

namespace Path

def partsOf (s : List Char) : List (List Char) :=
  match s with
  | [] => [[]]
  | '/' :: rest => [] :: partsOf rest
  | c :: rest =>
    match partsOf rest with
    | part :: others => (c :: part) :: others
    | [] => [[c]]

def read (s : String) : Path where
  anchor := if s.toList.head? == some '/' then .root else .here
  parts := ((partsOf s.toList).filter fun part => part != [] && part != ['.']).map String.ofList

/-- The text of a path; `folder` is the name of the program's folder. -/
def text (folder : String) (p : Path) : String :=
  let inner := String.intercalate "/" p.parts
  match p.anchor with
  | .here => if p.parts.isEmpty then "." else inner
  | .folder => if p.parts.isEmpty then folder else folder ++ "/" ++ inner
  | .root => "/" ++ inner

def child (p : Path) (name : String) : Path := { p with parts := p.parts ++ [name] }

def parent (p : Path) : Path := { p with parts := p.parts.dropLast }

end Path

end Clipping

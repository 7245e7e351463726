import Clipping.Json.Basic
import Clipping.Number.Shortest
import Clipping.Text.Printable

/-! Texts of JSON values: as JSON with every character beyond ASCII escaped, and in the
form in which messages and style values show them. -/
namespace Clipping.Json

def hexDigits (width n : Nat) : List Char :=
  let written := Nat.toDigits 16 n
  List.replicate (width - written.length) '0' ++ written

def unitEscape (n : Nat) : List Char := '\\' :: 'u' :: hexDigits 4 n

/-- A character in a JSON string; beyond the first 65536 it takes two surrogates. -/
def escapeChar (c : Char) : List Char :=
  match [('\x22', '\x22'), ('\\', '\\'), ('\n', 'n'), ('\r', 'r'), ('\t', 't'),
      (Char.ofNat 8, 'b'), (Char.ofNat 12, 'f')].lookup c with
  | some letter => ['\\', letter]
  | none =>
    if 32 ≤ c.toNat && c.toNat < 127 then [c]
    else if c.toNat < 0x10000 then unitEscape c.toNat
    else
      unitEscape (0xD800 + (c.toNat - 0x10000) / 1024) ++ unitEscape (0xDC00 + (c.toNat - 0x10000) % 1024)

def quoted (s : String) : String :=
  String.ofList ('\x22' :: (s.toList.flatMap escapeChar ++ ['\x22']))

def realText : Binary64 → String
  | .nan => "NaN"
  | .infinite false => "Infinity"
  | .infinite true => "-Infinity"
  | .finite x => x.text

/-- How a printer lays out arrays and objects: what follows an opening bracket, stands
between two items and precedes the closing bracket, at a depth. -/
structure Layout where
  opening : Nat → String
  between : Nat → String
  closing : Nat → String

def Layout.line : Layout := ⟨fun _ => "", fun _ => ", ", fun _ => ""⟩

/-- One item a line, with two spaces for each level. -/
def Layout.indented : Layout :=
  let newLine (depth : Nat) : String := String.ofList ('\n' :: List.replicate (2 * depth) ' ')
  ⟨fun depth => newLine (depth + 1), fun depth => "," ++ newLine (depth + 1), newLine⟩

def wrap (layout : Layout) (depth : Nat) (first last : String) (parts : List String) : String :=
  if parts.isEmpty then first ++ last
  else
    first ++ layout.opening depth ++ (layout.between depth).intercalate parts ++
      layout.closing depth ++ last

mutual

def print (layout : Layout) (depth : Nat) : Json → String
  | null => "null"
  | boolean b => if b then "true" else "false"
  | integer n => toString n
  | real x => realText x
  | text s => quoted s
  | array items => wrap layout depth "[" "]" (printItems layout (depth + 1) items)
  | object fields => wrap layout depth "\x7b" "\x7d" (printFields layout (depth + 1) fields)

def printItems (layout : Layout) (depth : Nat) : List Json → List String
  | [] => []
  | v :: rest => print layout depth v :: printItems layout depth rest

def printFields (layout : Layout) (depth : Nat) : List (String × Json) → List String
  | [] => []
  | (name, v) :: rest => (quoted name ++ ": " ++ print layout depth v) :: printFields layout depth rest

end

def line (v : Json) : String := print .line 0 v

def indented (v : Json) : String := print .indented 0 v

def shownChar (quote : Char) (c : Char) : List Char :=
  if c = quote || c = '\\' then ['\\', c]
  else match [('\n', 'n'), ('\r', 'r'), ('\t', 't')].lookup c with
    | some letter => ['\\', letter]
    | none =>
      if Text.isPrintable c then [c]
      else if c.toNat < 0x100 then '\\' :: 'x' :: hexDigits 2 c.toNat
      else if c.toNat < 0x10000 then unitEscape c.toNat
      else '\\' :: 'U' :: hexDigits 8 c.toNat

/-- A text between single quotes, or double ones if it holds single quotes only. -/
def shownText (s : String) : String :=
  let quote := if s.toList.contains '\x27' && !s.toList.contains '\x22' then '\x22' else '\x27'
  String.ofList (quote :: (s.toList.flatMap (shownChar quote) ++ [quote]))

mutual

def shown : Json → String
  | null => "None"
  | boolean b => if b then "True" else "False"
  | integer n => toString n
  | real x => x.text
  | text s => shownText s
  | array items => "[" ++ String.intercalate ", " (shownItems items) ++ "]"
  | object fields => "\x7b" ++ String.intercalate ", " (shownFields fields) ++ "\x7d"

def shownItems : List Json → List String
  | [] => []
  | v :: rest => shown v :: shownItems rest

def shownFields : List (String × Json) → List String
  | [] => []
  | (name, v) :: rest => (shownText name ++ ": " ++ shown v) :: shownFields rest

end

/-- A value as a text of its own: a text stands for itself. -/
def display : Json → String
  | text s => s
  | v => shown v

end Clipping.Json

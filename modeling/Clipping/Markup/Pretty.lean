import Clipping.Markup.Fragment
import Clipping.Markup.Printer
import Clipping.Text.Blank

/-! Indented markup: one element or run of text a line. An element that has only text
stays on one line if its text is short or its tag runs within lines. -/
namespace Clipping.Markup

variable {κ : Type}

/-- The spaces of one level, and the length from which text has lines of its own. -/
structure Indentation where
  width : Nat
  limit : Nat

def Indentation.margin (i : Indentation) (depth : Nat) : String :=
  String.ofList (List.replicate (i.width * depth) ' ')

/-- All the text of a content without elements. -/
def Content.onlyText? : Content κ → Option String
  | .nil => some ""
  | .text run rest => rest.onlyText?.map (run ++ ·)
  | .element _ _ _ => none

def Head.around (i : Indentation) (depth : Nat) (h : Head κ) (lines : List String) : String :=
  if lines.isEmpty then i.margin depth ++ h.opening ++ h.closing
  else String.intercalate "\n" ([i.margin depth ++ h.opening] ++ lines ++ [i.margin depth ++ h.closing])

/-- An element from the text it has, if it has nothing else, and the lines of its content. -/
def Head.indented (i : Indentation) (depth : Nat) (h : Head κ) (onlyText : Option String)
    (lines : List String) : String :=
  if isVoid h.tag then i.margin depth ++ h.opening
  else match onlyText.map strip with
    | some run =>
      if run.isEmpty then h.around i depth []
      else if run.length < i.limit || inlineTags.contains h.tag then
        i.margin depth ++ h.opening ++ escapeText run ++ h.closing
      else h.around i depth lines
    | none => h.around i depth lines

/-- The lines of a content; blank text has none. -/
def Content.lines (i : Indentation) (depth : Nat) : Content κ → List String
  | .nil => []
  | .text run rest =>
    let line := strip run
    (if line.isEmpty then [] else [i.margin depth ++ escapeText line]) ++ rest.lines i depth
  | .element h inner rest =>
    h.indented i depth inner.onlyText? (inner.lines i (depth + 1)) :: rest.lines i depth

def Element.indented (i : Indentation) (e : Element κ) : String :=
  e.head.indented i 0 e.content.onlyText? (e.content.lines i 1)

/-- Indents the first element that is read of a text; a text without one stays as it is. -/
def indentBy (read : Reader) (i : Indentation) (s : String) : String :=
  match read s with
  | .ok e => e.indented i
  | .error _ => s

def indent (i : Indentation) (s : String) : String := indentBy Element.read i s

end Clipping.Markup

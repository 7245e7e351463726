import Clipping.Markup.Node

/-! Flat markup: a tree on one line. Text and attribute values are escaped, so that none of
them reads as structure. -/
namespace Clipping.Markup

variable {κ : Type}

/-- Tags of elements that have neither content nor an end tag. -/
def voidTags : List String := [
  "area", "base", "br", "col", "embed", "hr", "img", "input", "link", "meta", "param", "source",
  "track", "wbr"]

/-- Tags of elements that run within a line of text. -/
def inlineTags : List String := [
  "a", "abbr", "b", "bdi", "bdo", "cite", "code", "dfn", "em", "i", "kbd", "mark", "q", "s",
  "samp", "small", "span", "strong", "sub", "sup", "time", "u", "var", "wbr"]

def isVoid (tag : String) : Bool := voidTags.contains tag

def escapeTextChar (c : Char) : List Char :=
  if c = '&' then "&amp;".toList
  else if c = '<' then "&lt;".toList
  else if c = '>' then "&gt;".toList
  else [c]

def escapeText (s : String) : String := String.ofList (s.toList.flatMap escapeTextChar)

def escapeValueChar (c : Char) : List Char :=
  if c = '&' then "&amp;".toList
  else if c = '\x22' then "&quot;".toList
  else [c]

def escapeValue (s : String) : String := String.ofList (s.toList.flatMap escapeValueChar)

/-- An attribute; one with the empty value is its name alone. -/
def printAttribute (name value : String) : String :=
  if value.isEmpty then name else name ++ "=\x22" ++ escapeValue value ++ "\x22"

/-- The attributes in order, each after a space. -/
def printAttributes (attributes : Attributes) : String :=
  String.join (attributes.entries.map fun (name, value) => " " ++ printAttribute name value)

def Head.opening (h : Head κ) : String := "<" ++ h.tag ++ printAttributes h.attributes ++ ">"

def Head.closing (h : Head κ) : String := "</" ++ h.tag ++ ">"

def Content.print : Content κ → String
  | .nil => ""
  | .text run rest => escapeText run ++ rest.print
  | .element head inner rest =>
    (if isVoid head.tag then head.opening else head.opening ++ inner.print ++ head.closing) ++ rest.print

def Element.print (e : Element κ) : String :=
  if isVoid e.head.tag then e.head.opening else e.head.opening ++ e.content.print ++ e.head.closing

def Node.print : Node κ → String
  | .text run => escapeText run
  | .element e => e.print

end Clipping.Markup

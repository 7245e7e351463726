import Clipping.Capture.Walk
import Clipping.Markup.Token.Scan

/-! Reading a fragment of markup as a tree. Tags open and close elements as they stand:
no tag is implied, and an end tag closes all elements up to the nearest one of its name. -/
namespace Clipping.Markup

open Text

inductive ReadFault where
  | rejected (cause : Rejection)
  | noElement
  deriving DecidableEq, Repr

namespace Fragment

/-- Tags of elements that end where they start. -/
def emptyTags : List String := [
  "area", "base", "br", "col", "embed", "hr", "img", "input", "keygen", "link", "menuitem", "meta",
  "param", "source", "track", "wbr", "basefont", "bgsound", "command", "frame", "image", "isindex",
  "nextid", "spacer"]

/-- Tags of elements that keep the blanks of their text. -/
def preservingTags : List String := ["pre", "textarea"]

/-- An open element; its latest child stands first. -/
structure Frame where
  tag : String
  attributes : Attributes
  children : List (Node Unit)

def Frame.element (f : Frame) : Element Unit :=
  .new () f.tag f.attributes (.ofNodes f.children.reverse)

/-- A tree under construction: its open elements, the innermost first, the text since the
last tag, and the empty elements whose end tags may still come. -/
structure Partial where
  root : Option (Element Unit)
  stack : List Frame
  run : List Char
  ended : List String

namespace Partial

def start : Partial := ⟨none, [], [], []⟩

/-- Adds a node to the innermost open element. The first element outside of all is the root. -/
def add (p : Partial) (n : Node Unit) : Partial :=
  match p.stack, n with
  | f :: stack, n => { p with stack := { f with children := n :: f.children } :: stack }
  | [], .element e => { p with root := p.root <|> some e }
  | [], .text _ => p

def isSpace (c : Char) : Bool := [' ', '\n', '\t', Char.ofNat 12, '\r'].contains c

/-- A run of spaces becomes one line feed or one space. -/
def settled (run : List Char) : List Char :=
  if run.all isSpace then if run.contains '\n' then ['\n'] else [' '] else run

def flush (p : Partial) : Partial :=
  if p.run.isEmpty then p
  else
    let kept := p.stack.any fun f => preservingTags.contains f.tag
    { p with run := [] }.add (.text (String.ofList (if kept then p.run else settled p.run)))

/-- Closes the innermost elements, so many of them. -/
def close : Nat → Partial → Partial
  | 0, p => p
  | n + 1, p =>
    match p.stack with
    | [] => p
    | f :: stack => close n ({ p with stack := stack }.add (.element f.element))

/-- Closes the nearest open element of the name, and those inside it. -/
def closeTag (p : Partial) (tag : String) : Partial :=
  match p.stack.findIdx? (·.tag == tag) with
  | some i => p.close (i + 1)
  | none => p

/-- An end tag; one that is left from an empty element does nothing. -/
def finish (p : Partial) (tag : String) : Partial :=
  if p.ended.contains tag then { p with ended := p.ended.erase tag } else p.flush.closeTag tag

def step (p : Partial) : Token → Partial
  | .text run => { p with run := p.run ++ run }
  | .boundary => p.flush
  | .finish tag => p.finish tag
  | .start tag attributes closed =>
    let flushed := p.flush
    let opened := { flushed with stack := ⟨tag, attributes, []⟩ :: flushed.stack }
    if closed then opened.finish tag
    else if emptyTags.contains tag then { opened.close 1 with ended := tag :: p.ended }
    else opened

/-- The tree when the markup ends: all elements end there too. -/
def complete (p : Partial) : Option (Element Unit) :=
  let flushed := p.flush
  (flushed.close flushed.stack.length).root

end Partial

def ofTokens (tokens : List Token) : Option (Element Unit) :=
  (tokens.foldl Partial.step .start).complete

end Fragment

/-- A reader of markup: the first element of a text, numbered in document order. It fails by rejecting
the text or finding no element in it. -/
abbrev Reader := String → Except ReadFault (Element Nat)

/-- The reader of tags as they stand, at any depth. -/
def Element.read (s : String) : Except ReadFault (Element Nat) :=
  match Token.scan s with
  | .error cause => .error (.rejected cause)
  | .ok tokens =>
    match Fragment.ofTokens tokens with
    | some e => .ok e.numbered
    | none => .error .noElement

inductive PageFault where
  | unread (fault : ReadFault)
  /-- A number in the page has too many digits. -/
  | numeral
  deriving DecidableEq, Repr

/-- A reader of pages, which reads no number of too many digits. -/
structure PageReader where
  read : Reader
  isOverlong : String → Bool

def PageReader.page (reader : PageReader) (s : String) : Except PageFault (Element Nat) :=
  if reader.isOverlong s then .error .numeral else (reader.read s).mapError .unread

def PageReader.standard : PageReader := ⟨Element.read, Token.isOverlong⟩

end Clipping.Markup

import Clipping.Capture.Record
import Clipping.Json.Printer
import Clipping.Markup.Cleaning
import Clipping.Markup.Pretty
import Clipping.Stylesheet
import Clipping.Utility.Compiler

/-! The three artifacts of a clipping: cleaned markup with a class for each element, the
stylesheet of those classes, and the same markup with utility tokens as classes. All
three count the elements alike. -/
namespace Clipping

open Markup

variable {κ : Type}

structure Artifacts where
  markup : String
  stylesheet : String
  utilityMarkup : String
  rootTokens : List String
  deriving DecidableEq, Repr

/-- What is printed of the artifacts. -/
inductive Rendition where
  | raw
  | json
  | html
  | css
  | utility
  deriving DecidableEq, Repr

namespace Artifacts

def toJson (a : Artifacts) : Json := .object [
  ("markup", .text a.markup), ("stylesheet", .text a.stylesheet),
  ("utilityMarkup", .text a.utilityMarkup),
  ("rootUtilityTokens", .array (a.rootTokens.map .text))]

/-- All artifacts in one block with headings. -/
def raw (a : Artifacts) : String := String.intercalate "\n" [
  "/* ── HTML ── */", a.markup, "", "/* ── CSS ── */", a.stylesheet, "", "/* ── Tailwind ── */",
  "<!-- Tailwind classes: " ++ String.intercalate " " a.rootTokens ++ " -->", a.utilityMarkup]

def render (a : Artifacts) : Rendition → String
  | .raw => a.raw
  | .json => a.toJson.indented
  | .html => a.markup
  | .css => a.stylesheet
  | .utility => a.utilityMarkup

end Artifacts

namespace Config

def indentation (c : Config) : Indentation := ⟨c.indentWidth, c.inlineLimit⟩

def cleaned (c : Config) (e : Element κ) : Element κ := e.clean c.overlayStem c.className

end Config

/-- A clipping: the trees that are printed, and what they were made from. -/
structure Clip (κ : Type) where
  config : Config
  source : Element κ
  records : List Record
  outputs : List Utility.Output
  cleaned : Element κ
  utility : Element κ

namespace Clip

def tokensOf (outputs : List Utility.Output) (index : Nat) : List String :=
  ((outputs[index]?).map Utility.Output.tokens).getD []

def ofElement (config : Config) (resolve : Resolver κ) (e : Element κ) : Clip κ :=
  let records := Record.ofElement config resolve e
  let outputs := records.map fun r => Utility.Compiler.builtin.compile r.styles
  let cleaned := config.cleaned e
  ⟨config, e, records, outputs, cleaned, cleaned.withTokens (tokensOf outputs)⟩

/-- The artifacts, where the markup that is indented is read again by the reader. -/
def artifactsBy (read : Reader) (c : Clip κ) : Artifacts where
  markup := indentBy read c.config.indentation c.cleaned.print
  stylesheet := Stylesheet.print c.config.indentWidth (c.records.map fun r => (r.className, r.styles))
  utilityMarkup := indentBy read c.config.indentation c.utility.print
  rootTokens := tokensOf c.outputs 0

def artifacts (c : Clip κ) : Artifacts := c.artifactsBy Element.read

end Clip

end Clipping

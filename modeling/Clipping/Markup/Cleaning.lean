import Clipping.Markup.Node

/-! Cleaned markup: without overlays, inline styles and the attributes of frameworks, and
with classes attached by number. -/
namespace Clipping.Markup

variable {κ : Type}

/-- Names of attributes: all with a start, or a single one. -/
inductive NamePattern where
  | leading (start : String)
  | exactly (name : String)
  deriving DecidableEq, Repr

/-- A line feed may follow a name that is matched as a whole. -/
def NamePattern.holds : NamePattern → String → Bool
  | leading start, name => start.toList.isPrefixOf name.toList
  | exactly own, name => name == own || name == own ++ "\n"

/-- The attributes that frameworks and tools leave behind. -/
def frameworkPatterns : List NamePattern := [
  .leading "data-", .leading "svelte-", .leading "_svelte", .leading "ng-", .leading "v-",
  .leading "x-", .exactly "fdprocessedid", .exactly "jsaction", .exactly "jsmodel",
  .exactly "jscontroller", .exactly "jsrenderer", .exactly "jsshadow"]

def isFrameworkAttribute (name : String) : Bool := frameworkPatterns.any (·.holds name)

/-- Sets the class where the attribute stands, or last; the empty class removes it. -/
def Head.withClass (name : String) (h : Head κ) : Head κ :=
  if name.isEmpty then { h with attributes := h.attributes.erase "class" }
  else { h with attributes := h.attributes.set "class" name }

/-- Copies have their tags in lower case. -/
def Head.copied (h : Head κ) : Head κ := { h with tag := lower h.tag }

/-- Only the class and what neither styles nor frameworks own stays. -/
def Head.cleaned (h : Head κ) : Head κ :=
  { h with attributes := h.attributes.filter fun name _ =>
      name == "class" || (name != "style" && !isFrameworkAttribute name) }

/-- The cleaned copy, in which the element of each number has the given class. -/
def Element.clean (stem : String) (className : Nat → String) (e : Element κ) : Element κ :=
  (e.withoutOverlays stem).mapNumbered fun i h => h.copied.cleaned.withClass (className i)

/-- The copy in which the element of each number has the given tokens as its class. -/
def Element.withTokens (tokens : Nat → List String) (e : Element κ) : Element κ :=
  e.mapNumbered fun i h =>
    if (tokens i).isEmpty then h.copied.withClass ""
    else { h.copied with attributes := h.attributes.set "class" (String.intercalate " " (tokens i)) }

end Clipping.Markup

import Clipping.Utility.Rules.Border
import Clipping.Utility.Rules.Effect
import Clipping.Utility.Rules.Flexible
import Clipping.Utility.Rules.Lettering
import Clipping.Utility.Rules.Paint
import Clipping.Utility.Rules.Placement
import Clipping.Utility.Rules.Spacing
import Clipping.Utility.Rules.Tabular
import Clipping.Utility.Rules.Tracks

/-! Compilers: registered rules in the order of their registration. A property that no
rule reads keeps its declaration as a literal, after all that the rules emit. -/
namespace Clipping.Utility

structure Compiler where
  rules : List Rule
  distinct : (rules.map Rule.id).Nodup

namespace Compiler

def empty : Compiler := ⟨[], List.nodup_nil⟩

def ids (c : Compiler) : List String := c.rules.map Rule.id

def rule? (c : Compiler) (id : String) : Option Rule := c.rules.find? (·.id == id)

/-- Adds a rule at the end. A rule with its id must not be there yet. -/
def register (c : Compiler) (r : Rule) : Option Compiler :=
  if h : r.id ∈ c.ids then none
  else some ⟨c.rules ++ [r], by
    simpa [List.nodup_append, c.distinct, ids] using fun other member same =>
      h (List.mem_map.mpr ⟨other, member, same⟩)⟩

def unregister (c : Compiler) (id : String) : Compiler :=
  ⟨c.rules.filter (·.id != id), c.distinct.sublist (List.filter_sublist.map _)⟩

/-- Registers rules up to the first whose id is present. Gives the compiler reached, and
that id. -/
def registerAll (c : Compiler) : List Rule → Compiler × Option String
  | [] => (c, none)
  | r :: rest =>
    match c.register r with
    | some c => c.registerAll rest
    | none => (c, some r.id)

def declaredProperties (c : Compiler) : List String :=
  (c.rules.flatMap Rule.properties).eraseDups

def emitted (c : Compiler) (d : Declarations) : Output :=
  .join ((c.rules.filter (·.applies d)).map (·.emit d))

/-- The declarations that no rule reads, as literals. -/
def remaining (c : Compiler) (d : Declarations) : Output :=
  .join ((d.entries.filter fun entry => !c.rules.any (·.properties.contains entry.1)).map
    fun entry => .declaration entry.1 entry.2)

def compile (c : Compiler) (d : Declarations) : Output := c.emitted d ++ c.remaining d

end Compiler

def builtinRules : List Rule := [
  displayRule, positionRule, overflowRule, visibilityRule, flexRule, gridRule, gapRule, colorRule,
  backgroundRule, boxRule "padding" "p", boxRule "margin" "m", sizingRule, radiusRule, fontRule,
  textRule, borderRule, opacityRule, shadowRule, interactionRule, motionRule, tabularRule]

def Compiler.builtin : Compiler := (Compiler.empty.registerAll builtinRules).1

end Clipping.Utility

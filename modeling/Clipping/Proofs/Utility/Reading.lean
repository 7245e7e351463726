import Clipping.Utility.Compiler

/-! What rules read. The output of a rule is put together from readings of single
properties, all of which it declares, so declarations of other properties do not matter. -/
namespace Clipping.Utility

/-- The output is the same for declarations that answer alike for the given properties. -/
def DependsOn (properties : List String) (emit : Declarations → Output) : Prop :=
  ∀ d other, (∀ p ∈ properties, d.get? p = other.get? p) → emit d = emit other

namespace DependsOn

variable {properties : List String}

theorem declared {p : String} (member : p ∈ properties) (f : String → Output) :
    DependsOn properties fun d => declared d p f := by
  intro d other same
  simp only [Utility.declared, same p member]

theorem append {f g : Declarations → Output} (first : DependsOn properties f)
    (second : DependsOn properties g) : DependsOn properties fun d => f d ++ g d := by
  intro d other same
  simp only [first d other same, second d other same]

theorem join_nil : DependsOn properties fun _ => .join [] := fun _ _ _ => rfl

theorem join_cons {f : Declarations → Output} {g : Declarations → List Output}
    (first : DependsOn properties f) (rest : DependsOn properties fun d => .join (g d)) :
    DependsOn properties fun d => .join (f d :: g d) :=
  first.append rest

theorem join_map {names : List String} {f : String → Declarations → Output}
    (each : ∀ name ∈ names, DependsOn properties (f name)) :
    DependsOn properties fun d => .join (names.map fun name => f name d) := by
  intro d other same
  exact congrArg Output.join
    (List.map_congr_left fun name listed => each name listed d other same)

theorem ite_contains {p : String} (member : p ∈ properties) {f g : Declarations → Output}
    (present : DependsOn properties f) (absent : DependsOn properties g) :
    DependsOn properties fun d => if d.contains p then f d else g d := by
  intro d other same
  show (if (d.get? p).isSome then f d else g d) = if (other.get? p).isSome then f other else g other
  rw [same p member, present d other same, absent d other same]

end DependsOn

theorem DependsOn.reading {r : Rule} (single : r ∈ [displayRule, radiusRule, opacityRule]) :
    DependsOn r.properties r.emit := by
  simp only [List.mem_cons, List.not_mem_nil, or_false] at single
  rcases single with rfl | rfl | rfl
  all_goals exact .declared (by decide) _

/-- A rule of two or more readings, one after another. -/
theorem DependsOn.readings {r : Rule}
    (chain : r ∈ [overflowRule, visibilityRule, colorRule, shadowRule, interactionRule, motionRule]) :
    DependsOn r.properties r.emit := by
  simp only [List.mem_cons, List.not_mem_nil, or_false] at chain
  rcases chain with rfl | rfl | rfl | rfl | rfl | rfl
  all_goals
    repeat' apply DependsOn.append
    all_goals exact .declared (by decide) _

/-- A rule of a list of readings; that of borders has a list of sides within it. -/
theorem DependsOn.list {r : Rule} (row : r ∈ [flexRule, gridRule, backgroundRule, sizingRule,
    fontRule, textRule, borderRule, tabularRule]) : DependsOn r.properties r.emit := by
  simp only [List.mem_cons, List.not_mem_nil, or_false] at row
  rcases row with rfl | rfl | rfl | rfl | rfl | rfl | rfl | rfl
  all_goals
    repeat' apply DependsOn.join_cons
    all_goals first | exact .declared (by decide) _ | exact .join_nil

theorem positionRule_dependsOn : DependsOn positionRule.properties positionRule.emit := by
  apply DependsOn.append
  · exact .declared (by decide) _
  · apply DependsOn.join_map
    intro side listed
    exact .declared (List.mem_cons_of_mem _ listed) _

theorem gapRule_dependsOn : DependsOn gapRule.properties gapRule.emit := by
  apply DependsOn.ite_contains
  · decide
  · exact .declared (by decide) _
  · apply DependsOn.append
    · exact .declared (by decide) _
    · exact .declared (by decide) _

/-- The rule of a box reads its shorthand and the four sides. -/
theorem boxRule_dependsOn (shorthand stem : String) :
    DependsOn (boxRule shorthand stem).properties (boxRule shorthand stem).emit := by
  have side {name : String} (listed : name ∈ sides) :
      shorthand ++ "-" ++ name ∈ (boxRule shorthand stem).properties :=
    List.mem_cons_of_mem _ (List.mem_map.mpr ⟨name, listed, rfl⟩)
  intro d other same
  have whole := same shorthand List.mem_cons_self
  have top := same _ (side (by decide : "top" ∈ sides))
  have right := same _ (side (by decide : "right" ∈ sides))
  have bottom := same _ (side (by decide : "bottom" ∈ sides))
  have left := same _ (side (by decide : "left" ∈ sides))
  simp only [boxRule, sides, declared, List.any_cons, List.any_nil, List.map_cons, List.map_nil,
    whole, top, right, bottom, left]

theorem builtin_dependsOn {r : Rule} (known : r ∈ builtinRules) :
    DependsOn r.properties r.emit := by
  simp only [builtinRules, List.mem_cons, List.not_mem_nil, or_false] at known
  rcases known with rfl | rfl | rfl | rfl | rfl | rfl | rfl | rfl | rfl | rfl | rfl | rfl | rfl |
    rfl | rfl | rfl | rfl | rfl | rfl | rfl | rfl
  · exact .reading (by simp)
  · exact positionRule_dependsOn
  · exact .readings (by simp)
  · exact .readings (by simp)
  · exact .list (by simp)
  · exact .list (by simp)
  · exact gapRule_dependsOn
  · exact .readings (by simp)
  · exact .list (by simp)
  · exact boxRule_dependsOn "padding" "p"
  · exact boxRule_dependsOn "margin" "m"
  · exact .list (by simp)
  · exact .reading (by simp)
  · exact .list (by simp)
  · exact .list (by simp)
  · exact .list (by simp)
  · exact .reading (by simp)
  · exact .readings (by simp)
  · exact .readings (by simp)
  · exact .readings (by simp)
  · exact .list (by simp)

end Clipping.Utility

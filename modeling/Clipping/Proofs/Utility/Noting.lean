import Clipping.Proofs.Utility.Composition
import Mathlib.Data.List.Basic

/-! What rules note. A note stands beside a literal and names the property that the literal is
of. A rule takes literals from the properties that it reads alone, so its notes are about those. -/
namespace Clipping.Utility

namespace Output

def NotesOnly (properties : List String) (o : Output) : Prop := ∀ f ∈ o.fallbacks, f.property ∈ properties

namespace NotesOnly

variable {properties : List String}

theorem none : NotesOnly properties Output.none := nofun

theorem append {a b : Output} (first : NotesOnly properties a) (second : NotesOnly properties b) :
    NotesOnly properties (a ++ b) :=
  List.forall_mem_append.mpr ⟨first, second⟩

theorem join {outputs : List Output} (each : ∀ o ∈ outputs, NotesOnly properties o) :
    NotesOnly properties (join outputs) := by
  intro f member
  rw [fallbacks_join] at member
  obtain ⟨o, listed, own⟩ := List.mem_flatMap.mp member
  exact each o listed f own

theorem row {outputs : List Output} (each : outputs.Forall (NotesOnly properties)) :
    NotesOnly properties (Output.join outputs) :=
  join (List.forall_iff_forall_mem.mp each)

theorem token (t : String) : NotesOnly properties (token t) := nofun

theorem tokens (ts : List String) : NotesOnly properties (Output.join (ts.map Output.token)) := by
  refine join fun o member => ?_
  obtain ⟨t, -, rfl⟩ := List.mem_map.mp member
  exact token t

variable {property : String} (own : property ∈ properties)

include own

theorem fallback (t value : String) (reason : Reason) :
    NotesOnly properties (fallback t property value reason) :=
  List.forall_mem_singleton.mpr own

theorem unmapped (t value : String) : NotesOnly properties (unmapped t property value) :=
  fallback own t value .unmappableValue

theorem declaration (value : String) : NotesOnly properties (declaration property value) :=
  unmapped own _ value

theorem color (stem value : String) : NotesOnly properties (color stem property value) := by
  unfold Output.color
  simp only
  split
  · exact token _
  · exact fallback own _ value .unmatchedColor

theorem keyNote (value : String) : NotesOnly properties (keyNote property value) := by
  intro f member
  simp only [Output.keyNote] at member
  split at member
  · obtain rfl := List.mem_singleton.mp member
    exact own
  · cases member

theorem length (stem value : String) : NotesOnly properties (length stem property value) :=
  .append (token _) (keyNote own value)

end NotesOnly

end Output

open Output

/-! Readings. -/

variable {d : Declarations} {properties : List String} {property : String}

theorem notes_declared {f : String → Output} (each : ∀ v, NotesOnly properties (f v)) :
    NotesOnly properties (declared d property f) := by
  unfold declared
  split
  · exact each _
  · exact .none

section

variable (own : property ∈ properties)

include own

theorem notes_keyword (table : Keywords) (literal value : String) :
    NotesOnly properties (keyword table literal property value) := by
  unfold keyword
  split
  · split
    · exact .unmapped own literal value
    · exact .token _
  · exact .unmapped own literal value

theorem notes_mapped (table : Keywords) : NotesOnly properties (mapped d property table) :=
  notes_declared fun v => notes_keyword own table _ v

theorem notes_mappedAfter (stem : String) (table : Keywords) :
    NotesOnly properties (mappedAfter stem d property table) :=
  notes_declared fun v => notes_keyword own table _ v

theorem notes_verbatim : NotesOnly properties (verbatim d property) :=
  notes_declared fun v => .declaration own v

theorem notes_colored (stem : String) : NotesOnly properties (colored d stem property) :=
  notes_declared fun v => .color own stem v

theorem notes_measured (stem : String) (names : Keywords) :
    NotesOnly properties (measured d stem property names) := by
  refine notes_declared fun v => ?_
  split
  · exact .token _
  · exact .length own stem v

theorem notes_overflow : NotesOnly properties (overflow d property) := by
  refine notes_declared fun v => ?_
  split
  · exact .token _
  · exact .unmapped own _ v

theorem notes_template (stem : String) : NotesOnly properties (template d stem property) := by
  refine notes_declared fun v => ?_
  split
  · exact .token _
  · exact .unmapped own _ v

theorem notes_span (stem : String) : NotesOnly properties (span d stem property) := by
  refine notes_declared fun v => ?_
  split
  · exact .token _
  · split
    · exact .token _
    · exact .unmapped own _ v

theorem notes_place (table : Keywords) : NotesOnly properties (place d property table) :=
  notes_declared fun _ => notes_keyword own table _ _

theorem notes_axes (both first second : String) : NotesOnly properties (axes d both first second property) := by
  refine notes_declared fun v => ?_
  split
  · exact .length own both _
  · split
    · exact .length own both _
    · exact .append (.length own first _) (.length own second _)
  · exact .declaration own v

theorem notes_borderWidth (stem width : String) : NotesOnly properties (borderWidth stem property width) := by
  unfold borderWidth
  split
  · exact .token _
  · exact .unmapped own _ width

theorem notes_borderStyle (stem style value : String) :
    NotesOnly properties (borderStyle stem property style value) := by
  unfold borderStyle
  split
  · exact .none
  · split
    · exact .token _
    · exact .unmapped own _ value

theorem notes_borderShorthand (stem value : String) :
    NotesOnly properties (borderShorthand stem property value) := by
  unfold borderShorthand
  split
  · exact .unmapped own stem value
  · split
    · exact .unmapped own stem value
    · split
      · exact .token _
      · exact .append (.append (notes_borderWidth own stem _) (notes_borderStyle own stem _ value))
          (.color own stem _)

end

theorem notes_flow (own : "flex-flow" ∈ properties) : NotesOnly properties (flow d) := by
  refine notes_declared fun v => ?_
  split
  · exact .tokens _
  · exact .declaration own v

theorem notes_grow (own : "flex-grow" ∈ properties) : NotesOnly properties (grow d) := by
  refine notes_declared fun v => ?_
  split
  · exact .declaration own v
  · split
    · exact .none
    · split
      · exact .token _
      · exact .token _

theorem notes_shrink (own : "flex-shrink" ∈ properties) : NotesOnly properties (shrink d) := by
  refine notes_declared fun v => ?_
  split
  · exact .declaration own v
  · split
    · exact .none
    · split
      · exact .token _
      · exact .token _

theorem notes_order : NotesOnly properties (order d) := by
  refine notes_declared fun v => ?_
  split
  · exact .none
  · exact .token _

theorem notes_fontFamily (own : "font-family" ∈ properties) : NotesOnly properties (fontFamily d) :=
  notes_declared fun v => .unmapped own _ v

theorem notes_lineHeight (own : "line-height" ∈ properties) : NotesOnly properties (lineHeight d) := by
  refine notes_declared fun v => ?_
  split
  · exact .token _
  · exact .unmapped own _ v

theorem notes_decoration (own : "text-decoration" ∈ properties) : NotesOnly properties (decoration d) := by
  refine notes_declared fun v => ?_
  simp only
  split
  · exact .token _
  · split
    · exact .token _
    · split
      · exact .token _
      · split
        · exact .token _
        · exact .unmapped own _ v

theorem notes_boxShadow (own : "box-shadow" ∈ properties) : NotesOnly properties (boxShadow d) := by
  refine notes_declared fun v => ?_
  split
  · exact .token _
  · exact .unmapped own _ v

theorem notes_stacking (own : "z-index" ∈ properties) : NotesOnly properties (stacking d) := by
  refine notes_declared fun v => ?_
  split
  · exact .none
  · exact notes_keyword own _ _ v

theorem notes_listStyle (own : "list-style" ∈ properties) : NotesOnly properties (listStyle d) := by
  refine notes_declared fun v => ?_
  simp only
  split
  · exact .token _
  · split
    · exact .token _
    · split
      · exact .token _
      · exact .declaration own v

/-! Rules. -/

/-- The rule notes nothing but properties that it names. -/
def Rule.NotesOwn (r : Rule) : Prop := ∀ d, NotesOnly r.properties (r.emit d)

theorem displayRule_notesOwn : displayRule.NotesOwn := fun _ => notes_mapped (by decide) _

theorem positionRule_notesOwn : positionRule.NotesOwn := by
  intro d
  refine .append (notes_mapped (by decide) _) (.join fun o member => ?_)
  obtain ⟨side, listed, rfl⟩ := List.mem_map.mp member
  exact notes_measured (List.mem_cons_of_mem _ listed) _ _

theorem overflowRule_notesOwn : overflowRule.NotesOwn := fun _ =>
  .append (.append (notes_overflow (by decide)) (notes_overflow (by decide))) (notes_overflow (by decide))

theorem visibilityRule_notesOwn : visibilityRule.NotesOwn := fun _ =>
  .append (.append (.append (notes_mapped (by decide) _) (notes_mapped (by decide) _))
    (notes_mapped (by decide) _)) (notes_mapped (by decide) _)

theorem flexRule_notesOwn : flexRule.NotesOwn := fun _ => .row ⟨
  notes_mappedAfter (by decide) _ _,
  notes_mapped (by decide) _,
  notes_mapped (by decide) _,
  notes_flow (by decide),
  notes_mapped (by decide) _,
  notes_mapped (by decide) _,
  notes_mapped (by decide) _,
  notes_mapped (by decide) _,
  notes_grow (by decide),
  notes_shrink (by decide),
  notes_measured (by decide) _ _,
  notes_order⟩

theorem gridRule_notesOwn : gridRule.NotesOwn := fun _ => .row ⟨
  notes_template (by decide) _,
  notes_template (by decide) _,
  notes_span (by decide) _,
  notes_span (by decide) _,
  notes_verbatim (by decide),
  notes_verbatim (by decide),
  notes_mapped (by decide) _,
  notes_place (by decide) _,
  notes_place (by decide) _⟩

theorem gapRule_notesOwn : gapRule.NotesOwn := by
  intro d
  show NotesOnly _ (if d.contains "gap" then _ else _)
  split
  · exact notes_axes (by decide) _ _ _
  · exact .append (notes_measured (by decide) _ _) (notes_measured (by decide) _ _)

theorem colorRule_notesOwn : colorRule.NotesOwn := fun _ =>
  .append (notes_colored (by decide) _) (notes_colored (by decide) _)

theorem backgroundRule_notesOwn : backgroundRule.NotesOwn := fun _ => .row ⟨
  notes_declared fun v => .unmapped (by decide) _ v,
  notes_mapped (by decide) _,
  notes_mapped (by decide) _,
  notes_mapped (by decide) _⟩

theorem boxRule_notesOwn (shorthand stem : String) : (boxRule shorthand stem).NotesOwn := by
  have whole : shorthand ∈ (boxRule shorthand stem).properties := List.mem_cons_self
  intro d
  simp only [boxRule]
  split
  · refine .append (.join fun o member => ?_) (.tokens _)
    obtain ⟨side, listed, rfl⟩ := List.mem_map.mp member
    exact notes_declared fun v =>
      .keyNote (List.mem_cons_of_mem _ (List.mem_map.mpr ⟨side, listed, rfl⟩)) v
  · refine notes_declared fun v => ?_
    split
    · exact .declaration whole v
    · split
      · refine .append (.join fun o member => ?_) (.tokens _)
        obtain ⟨part, -, rfl⟩ := List.mem_map.mp member
        exact .keyNote whole part
      · exact .declaration whole v

theorem sizingRule_notesOwn : sizingRule.NotesOwn := fun _ => .row ⟨
  notes_measured (by decide) _ _,
  notes_measured (by decide) _ _,
  notes_measured (by decide) _ _,
  notes_measured (by decide) _ _,
  notes_measured (by decide) _ _,
  notes_measured (by decide) _ _⟩

theorem radiusRule_notesOwn : radiusRule.NotesOwn := by
  refine fun d => notes_declared fun v => ?_
  split
  · exact .token _
  · split
    · exact .token _
    · exact .unmapped (by decide) _ v

theorem fontRule_notesOwn : fontRule.NotesOwn := fun _ => .row ⟨
  notes_fontFamily (by decide),
  notes_mappedAfter (by decide) _ _,
  notes_mappedAfter (by decide) _ _,
  notes_mapped (by decide) _,
  notes_mapped (by decide) _,
  notes_lineHeight (by decide)⟩

theorem textRule_notesOwn : textRule.NotesOwn := fun _ => .row ⟨
  notes_mapped (by decide) _,
  notes_decoration (by decide),
  notes_mapped (by decide) _,
  notes_mappedAfter (by decide) _ _,
  notes_verbatim (by decide),
  notes_mapped (by decide) _,
  notes_mapped (by decide) _⟩

theorem borderRule_notesOwn : borderRule.NotesOwn := by
  refine fun d => .row ⟨?border, ?sides, ?width, ?style, ?color, ?outline⟩
  case border => exact notes_declared fun v => notes_borderShorthand (by decide) _ v
  case sides =>
    refine .join fun o member => ?_
    obtain ⟨⟨side, stem⟩, listed, rfl⟩ := List.mem_map.mp member
    have read : ∀ side ∈ borderSides, side.1 ∈ borderRule.properties := by decide
    exact notes_declared fun v => notes_borderShorthand (read _ listed) stem v
  case width =>
    refine notes_declared fun v => ?_
    split
    · exact .declaration (by decide) v
    · split
      · exact .token _
      · exact notes_borderWidth (by decide) _ v
  case style =>
    refine notes_declared fun v => ?_
    split
    · exact .token _
    · exact .declaration (by decide) v
  case color =>
    refine notes_declared fun v => ?_
    split
    · exact .declaration (by decide) v
    · exact .color (by decide) _ v
  case outline =>
    refine notes_declared fun v => ?_
    split
    · exact .token _
    · exact .declaration (by decide) v

theorem opacityRule_notesOwn : opacityRule.NotesOwn := by
  refine fun d => notes_declared fun v => ?_
  split
  · exact .none
  · split
    · exact .unmapped (by decide) _ v
    · exact .token _

theorem shadowRule_notesOwn : shadowRule.NotesOwn := fun _ =>
  .append (notes_boxShadow (by decide)) (notes_verbatim (by decide))

theorem interactionRule_notesOwn : interactionRule.NotesOwn := fun _ =>
  .append (.append (notes_mappedAfter (by decide) _ _) (notes_mapped (by decide) _))
    (notes_stacking (by decide))

theorem motionRule_notesOwn : motionRule.NotesOwn := by
  refine fun d => .append (notes_verbatim (by decide)) (notes_declared fun v => ?_)
  split
  · exact .token _
  · exact .declaration (by decide) v

theorem tabularRule_notesOwn : tabularRule.NotesOwn := fun _ => .row ⟨
  notes_listStyle (by decide),
  notes_mapped (by decide) _,
  notes_mapped (by decide) _,
  notes_axes (by decide) _ _ _,
  notes_mappedAfter (by decide) _ _⟩

theorem builtin_notesOwn {r : Rule} (known : r ∈ builtinRules) : r.NotesOwn := by
  simp only [builtinRules, List.mem_cons, List.not_mem_nil, or_false] at known
  rcases known with rfl | rfl | rfl | rfl | rfl | rfl | rfl | rfl | rfl | rfl | rfl | rfl | rfl |
    rfl | rfl | rfl | rfl | rfl | rfl | rfl | rfl
  · exact displayRule_notesOwn
  · exact positionRule_notesOwn
  · exact overflowRule_notesOwn
  · exact visibilityRule_notesOwn
  · exact flexRule_notesOwn
  · exact gridRule_notesOwn
  · exact gapRule_notesOwn
  · exact colorRule_notesOwn
  · exact backgroundRule_notesOwn
  · exact boxRule_notesOwn "padding" "p"
  · exact boxRule_notesOwn "margin" "m"
  · exact sizingRule_notesOwn
  · exact radiusRule_notesOwn
  · exact fontRule_notesOwn
  · exact textRule_notesOwn
  · exact borderRule_notesOwn
  · exact opacityRule_notesOwn
  · exact shadowRule_notesOwn
  · exact interactionRule_notesOwn
  · exact motionRule_notesOwn
  · exact tabularRule_notesOwn

end Clipping.Utility

import Clipping.Proofs.Text.Words
import Clipping.Proofs.Utility.Registration
import Clipping.Proofs.Utility.Sides

/-! Which declarations leave no token. Apart from the edges of a few numeric properties
every rule speaks of each property that it reads; of the sides of a box, one that is zero
goes without a token, also where it stands alone. -/
namespace Clipping.Utility

open Output Text

/-- The initial values of a few numeric properties; none of them has a token. -/
def NumericEdge (property value : String) : Prop :=
  (property = "flex-grow" ∧ ∃ x, factor? value = some x ∧ x.value = 0) ∨
  (property = "flex-shrink" ∧ ∃ x, factor? value = some x ∧ x.value = 1) ∨
  (property = "order" ∧ value = "0") ∨
  (property = "opacity" ∧ ∃ x, factor? value = some x ∧ x.value = 1) ∨
  (property = "z-index" ∧ (value = "auto" ∨ value = "0"))

def boxSides : List String :=
  ["padding", "margin"].flatMap fun shorthand => sides.map fun side => shorthand ++ "-" ++ side

def ZeroSide (property value : String) : Prop := property ∈ boxSides ∧ IsZero value

/-- Besides those, a few rules have nothing to say of an empty value. -/
def Silent (property value : String) : Prop :=
  NumericEdge property value ∨ ZeroSide property value ∨
    (property = "flex-flow" ∧ split value = []) ∨
    ((property = "order" ∨ property = "z-index") ∧ value = "")

/-- The rule speaks iff some property that it reads has a value that is not silent. -/
def Rule.Answers (r : Rule) : Prop :=
  ∀ d, (r.emit d).Speaks ↔ ∃ p ∈ r.properties, ∃ v, d.get? p = some v ∧ ¬Silent p v

/-- The properties with silent values, apart from the sides of boxes. -/
def edged : List String := ["flex-grow", "flex-shrink", "order", "opacity", "z-index", "flex-flow"]

variable {d : Declarations} {property : String}

/-- The only silent values of other properties are zero sides. -/
theorem silent_iff_zeroSide {value : String} (other : property ∉ edged) :
    Silent property value ↔ ZeroSide property value := by
  simp only [edged, List.mem_cons, List.not_mem_nil, or_false, not_or] at other
  simp [Silent, NumericEdge, other]

/-- Where no value is silent, a rule that speaks of each property answers. -/
theorem Rule.answers_of_loud {r : Rule} (loud : ∀ p ∈ r.properties, p ∉ edged ∧ p ∉ boxSides)
    (speaks : ∀ d, (r.emit d).Speaks ↔ ∃ p ∈ r.properties, ∃ v, d.get? p = some v) : r.Answers := by
  intro d
  rw [speaks d]
  constructor
  · rintro ⟨p, member, v, found⟩
    refine ⟨p, member, v, found, fun silent => ?_⟩
    obtain ⟨unedged, apart⟩ := loud p member
    exact apart ((silent_iff_zeroSide unedged).mp silent).1
  · rintro ⟨p, member, v, found, -⟩
    exact ⟨p, member, v, found⟩

/-! Readings. -/

@[simp] theorem speaks_overflow :
    (overflow d property).Speaks ↔ ∃ v, d.get? property = some v :=
  speaks_reading fun v => by simp [Literal.value]

@[simp] theorem speaks_template {stem : String} :
    (template d stem property).Speaks ↔ ∃ v, d.get? property = some v := by
  refine speaks_reading fun v => ?_
  split
  · simp
  · simp [Literal.value]

@[simp] theorem speaks_span {stem : String} :
    (span d stem property).Speaks ↔ ∃ v, d.get? property = some v := by
  refine speaks_reading fun v => ?_
  cases spanCount? v.toList with
  | none => simp [Literal.value]
  | some count => simp

@[simp] theorem speaks_place {table : Keywords} :
    (place d property table).Speaks ↔ ∃ v, d.get? property = some v :=
  speaks_reading fun _ => speaks_keyword (by simp [Literal.declaration])

@[simp] theorem speaks_axes {both first second : String} :
    (axes d both first second property).Speaks ↔ ∃ v, d.get? property = some v := by
  refine speaks_reading fun v => ?_
  split
  · simp
  · simp
  · simp

@[simp] theorem speaks_fontFamily :
    (fontFamily d).Speaks ↔ ∃ v, d.get? "font-family" = some v :=
  speaks_reading fun _ => by simp [Literal.value]

@[simp] theorem speaks_lineHeight :
    (lineHeight d).Speaks ↔ ∃ v, d.get? "line-height" = some v := by
  have names : ∀ entry ∈ lineHeightNames, entry.2 ≠ "" := by decide
  refine speaks_reading fun v => ?_
  split
  · next token named =>
    obtain ⟨factor, listed⟩ := mem_of_lineHeightName named
    exact (speaks_token token).mpr (names _ listed)
  · simp [Literal.value]

@[simp] theorem speaks_decoration :
    (decoration d).Speaks ↔ ∃ v, d.get? "text-decoration" = some v := by
  refine speaks_reading fun v => ?_
  simp only
  split
  · simp
  · split
    · simp
    · split
      · simp
      · split
        · simp
        · simp [Literal.value]

@[simp] theorem speaks_boxShadow :
    (boxShadow d).Speaks ↔ ∃ v, d.get? "box-shadow" = some v := by
  refine speaks_reading fun v => ?_
  split
  · next entry token found =>
    have named : ∀ entry ∈ shadowNames, entry.2 ≠ "" := by decide
    exact (speaks_token token).mpr (named _ (List.mem_of_find?_eq_some found))
  · simp [Literal.value]

@[simp] theorem speaks_listStyle :
    (listStyle d).Speaks ↔ ∃ v, d.get? "list-style" = some v :=
  speaks_reading fun v => by simp

/-! Borders. -/

theorem speaks_borderWidth {stem width : String} (named : stem ≠ "") :
    (borderWidth stem property width).Speaks := by
  unfold borderWidth
  split
  · simp [named]
  · simp [Literal.value]

theorem speaks_borderShorthand {stem value : String} (named : stem ≠ "") :
    (borderShorthand stem property value).Speaks := by
  unfold borderShorthand
  split
  · simp [named]
  · simp [named, speaks_borderWidth named]

/-! Numbers and their edges. -/

theorem factor?_eq_some_iff {value : String} {x : Finite} :
    factor? value = some x ↔ Decimal.read? value.toList = some (.finite x) := by
  unfold factor?
  cases Decimal.read? value.toList with
  | none => simp
  | some number => cases number <;> simp [Binary64.finite?]

theorem speaks_grow :
    (grow d).Speaks ↔ ∃ v, d.get? "flex-grow" = some v ∧ ¬∃ x, factor? v = some x ∧ x.value = 0 := by
  unfold grow
  rw [speaks_declared]
  refine exists_congr fun v => and_congr_right fun _ => ?_
  cases factor? v with
  | none => simp
  | some x =>
    by_cases zero : x.value = 0
    · simp [zero]
    · by_cases one : x.value = 1
      · simp [one]
      · simp [zero, one]

theorem speaks_shrink :
    (shrink d).Speaks ↔
      ∃ v, d.get? "flex-shrink" = some v ∧ ¬∃ x, factor? v = some x ∧ x.value = 1 := by
  unfold shrink
  rw [speaks_declared]
  refine exists_congr fun v => and_congr_right fun _ => ?_
  cases factor? v with
  | none => simp
  | some x =>
    by_cases one : x.value = 1
    · simp [one]
    · by_cases zero : x.value = 0
      · simp [zero]
      · simp [zero, one]

theorem speaks_order :
    (order d).Speaks ↔ ∃ v, d.get? "order" = some v ∧ ¬(v = "0" ∨ v = "") := by
  unfold order
  rw [speaks_declared]
  refine exists_congr fun v => and_congr_right fun _ => ?_
  by_cases zero : v = "0"
  · simp [zero]
  · by_cases blank : v = ""
    · simp [blank]
    · simp [zero, blank]

theorem speaks_stacking :
    (stacking d).Speaks ↔ ∃ v, d.get? "z-index" = some v ∧ ¬((v = "auto" ∨ v = "0") ∨ v = "") := by
  unfold stacking
  rw [speaks_declared]
  refine exists_congr fun v => and_congr_right fun _ => ?_
  by_cases edge : v = "auto" ∨ v = "0"
  · simp [edge]
  · by_cases blank : v = ""
    · simp [blank]
    · rw [if_neg (by simp [edge, blank])]
      exact iff_of_true (speaks_keyword (by simp [Literal.value])) (by simp [edge, blank])

theorem opacityToken?_eq_none_iff {value : String} :
    opacityToken? value = Option.none ↔ ∃ x, factor? value = some x ∧ x.value = 1 := by
  simp only [factor?_eq_some_iff]
  unfold opacityToken?
  split
  · next x read =>
    have inside : ¬((1 : Rat) < 0) := by decide
    by_cases one : x.value = 1
    · simp [read, one, inside]
    · simp only [read, one, if_false, Option.some.injEq, Binary64.finite.injEq, exists_eq_left']
      split
      · simp
      · split <;> simp
  · next other =>
    simp only [reduceCtorEq, false_iff, not_exists, not_and]
    intro x read
    exact absurd read (other x)

theorem opacityToken?_ne {value token : String} (found : opacityToken? value = some token) :
    token ≠ "" := by
  rcases opacityToken?_cases found with rfl | ⟨part, -, rfl⟩
  · simp [Literal.value]
  · simp

theorem speaks_opacity : (opacityRule.emit d).Speaks ↔
    ∃ v, d.get? "opacity" = some v ∧ ¬∃ x, factor? v = some x ∧ x.value = 1 := by
  simp only [opacityRule]
  rw [speaks_declared]
  refine exists_congr fun v => and_congr_right fun _ => ?_
  rw [← opacityToken?_eq_none_iff]
  cases found : opacityToken? v with
  | none => simp
  | some token =>
    have written := opacityToken?_ne found
    simp only
    split
    · simp [written]
    · simp [written]

/-- Words that each have a token speak, unless there are none. -/
theorem speaks_mapM {f : String → Option String} {words tokens : List String}
    (named : ∀ word token, f word = some token → token ≠ "") (found : words.mapM f = some tokens) :
    (join (tokens.map .token)).Speaks ↔ words ≠ [] := by
  cases words with
  | nil =>
    simp only [List.mapM_nil, Option.pure_def, Option.some.injEq] at found
    subst found
    simp
  | cons word rest =>
    simp only [List.mapM_cons, Option.bind_eq_bind, Option.bind_eq_some_iff, Option.pure_def,
      Option.some.injEq] at found
    obtain ⟨token, read, later, -, rfl⟩ := found
    simp [named word token read]

theorem speaks_flow :
    (flow d).Speaks ↔ ∃ v, d.get? "flex-flow" = some v ∧ split v ≠ [] := by
  have names : ∀ entry ∈ directionNames ++ wrapNames, entry.2 ≠ "" := by decide
  unfold flow
  rw [speaks_declared]
  refine exists_congr fun v => and_congr_right fun _ => ?_
  split
  · next tokens found =>
    exact speaks_mapM (fun word token read => names _ (mem_of_flowName read)) found
  · next found =>
    refine iff_of_true (speaks_declaration _ _) fun blank => ?_
    simp [blank] at found

/-! Rules. -/

theorem displayRule_answers : displayRule.Answers :=
  Rule.answers_of_loud (by decide) fun d => by simp [displayRule]

theorem positionRule_answers : positionRule.Answers :=
  Rule.answers_of_loud (by decide) fun d => by simp [positionRule, sides]

theorem overflowRule_answers : overflowRule.Answers :=
  Rule.answers_of_loud (by decide) fun d => by simp [overflowRule, or_assoc]

theorem visibilityRule_answers : visibilityRule.Answers :=
  Rule.answers_of_loud (by decide) fun d => by simp [visibilityRule, or_assoc]

theorem flexRule_answers : flexRule.Answers := by
  intro d
  simp [flexRule, Silent, NumericEdge, ZeroSide, boxSides, sides, speaks_flow, speaks_grow, speaks_shrink, speaks_order]

theorem gridRule_answers : gridRule.Answers :=
  Rule.answers_of_loud (by decide) fun d => by
    simp [gridRule, or_left_comm]

theorem gapRule_answers : gapRule.Answers :=
  Rule.answers_of_loud (by decide) fun d => by
    simp only [gapRule]
    split
    · next both =>
      obtain ⟨v, found⟩ := Option.isSome_iff_exists.mp both
      simp [found]
    · next both =>
      have absent : d.get? "gap" = Option.none := by simpa [Assoc.contains] using both
      simp [absent]

theorem colorRule_answers : colorRule.Answers :=
  Rule.answers_of_loud (by decide) fun d => by simp [colorRule]

theorem backgroundRule_answers : backgroundRule.Answers :=
  Rule.answers_of_loud (by decide) fun d => by
    simp [backgroundRule, speaks_reading, Literal.value]

theorem sizingRule_answers : sizingRule.Answers :=
  Rule.answers_of_loud (by decide) fun d => by simp [sizingRule]

theorem radiusRule_answers : radiusRule.Answers :=
  Rule.answers_of_loud (by decide) fun d => by
    have reading : (radiusRule.emit d).Speaks ↔ ∃ v, d.get? "border-radius" = some v := by
      refine speaks_reading fun v => ?_
      split
      · next named => exact speaks_lookup (by decide) named
      · simp [Literal.value]
    rw [reading]
    simp [radiusRule]

theorem fontRule_answers : fontRule.Answers :=
  Rule.answers_of_loud (by decide) fun d => by simp [fontRule]

theorem textRule_answers : textRule.Answers :=
  Rule.answers_of_loud (by decide) fun d => by simp [textRule]

theorem opacityRule_answers : opacityRule.Answers := by
  intro d
  have properties : opacityRule.properties = ["opacity"] := rfl
  rw [properties, speaks_opacity]
  simp [Silent, NumericEdge, ZeroSide, boxSides, sides]

theorem shadowRule_answers : shadowRule.Answers :=
  Rule.answers_of_loud (by decide) fun d => by simp [shadowRule]

theorem interactionRule_answers : interactionRule.Answers := by
  intro d
  simp [interactionRule, Silent, NumericEdge, ZeroSide, boxSides, sides, speaks_stacking, or_assoc, and_assoc]

theorem motionRule_answers : motionRule.Answers :=
  Rule.answers_of_loud (by decide) fun d => by
    simp [motionRule, speaks_declared]

theorem tabularRule_answers : tabularRule.Answers :=
  Rule.answers_of_loud (by decide) fun d => by simp [tabularRule]

theorem borderRule_answers : borderRule.Answers :=
  Rule.answers_of_loud (by decide) fun d => by
    simp [borderRule, borderSides, speaks_declared, speaks_borderShorthand, speaks_borderWidth,
      or_assoc]

/-! One declaration. -/

theorem Rule.Answers.single {r : Rule} (answers : r.Answers) {v : String}
    (member : property ∈ r.properties) :
    (r.emit (.ofList [(property, v)])).Speaks ↔ ¬Silent property v := by
  rw [answers]
  simp only [get?_single]
  constructor
  · rintro ⟨p, -, w, found, loud⟩
    split at found
    · next same =>
      cases found
      exact same ▸ loud
    · contradiction
  · intro loud
    exact ⟨property, member, v, by simp, loud⟩

theorem boxRule_single {shorthand stem v : String} (box : shorthand ∈ ["padding", "margin"])
    (member : property ∈ (boxRule shorthand stem).properties) (written : v ≠ "") :
    ((boxRule shorthand stem).emit (.ofList [(property, v)])).Speaks ↔ ¬Silent property v := by
  have each : ∀ s ∈ ["padding", "margin"], ∀ p ∈ s :: sides.map fun side => s ++ "-" ++ side,
      p ∉ edged ∧ (p ∈ boxSides ↔ p ≠ s) := by decide
  obtain ⟨unedged, sided⟩ := each shorthand box property member
  rw [speaks_boxRule_single member written, silent_iff_zeroSide unedged, ZeroSide, sided]
  by_cases whole : property = shorthand
  · simp [whole]
  · simp [whole]

theorem speaks_builtin_iff {r : Rule} (known : r ∈ builtinRules) {v : String}
    (member : property ∈ r.properties) (written : v ≠ "") :
    (r.emit (.ofList [(property, v)])).Speaks ↔ ¬Silent property v := by
  simp only [builtinRules, List.mem_cons, List.not_mem_nil, or_false] at known
  rcases known with rfl | rfl | rfl | rfl | rfl | rfl | rfl | rfl | rfl | rfl | rfl | rfl | rfl |
    rfl | rfl | rfl | rfl | rfl | rfl | rfl | rfl
  · exact displayRule_answers.single member
  · exact positionRule_answers.single member
  · exact overflowRule_answers.single member
  · exact visibilityRule_answers.single member
  · exact flexRule_answers.single member
  · exact gridRule_answers.single member
  · exact gapRule_answers.single member
  · exact colorRule_answers.single member
  · exact backgroundRule_answers.single member
  · exact boxRule_single (by decide) member written
  · exact boxRule_single (by decide) member written
  · exact sizingRule_answers.single member
  · exact radiusRule_answers.single member
  · exact fontRule_answers.single member
  · exact textRule_answers.single member
  · exact borderRule_answers.single member
  · exact opacityRule_answers.single member
  · exact shadowRule_answers.single member
  · exact interactionRule_answers.single member
  · exact motionRule_answers.single member
  · exact tabularRule_answers.single member

theorem applies_single (r : Rule) (v : String) :
    r.applies (.ofList [(property, v)]) = true ↔ property ∈ r.properties := by
  simp only [Rule.applies, List.any_eq_true, Assoc.contains, get?_single]
  constructor
  · rintro ⟨p, member, found⟩
    split at found
    · next same => exact same ▸ member
    · contradiction
  · intro member
    exact ⟨property, member, by simp⟩

theorem speaks_compile_single (tracked : property ∈ Property.tracked) {v : String} (written : v ≠ "") :
    (Compiler.builtin.compile (.ofList [(property, v)])).Speaks ↔ ¬Silent property v := by
  obtain ⟨r, known, member⟩ := exists_rule_of_tracked property tracked
  have read : ¬(Compiler.builtin.remaining (.ofList [(property, v)])).Speaks := by
    have declared : builtinRules.any (·.properties.contains property) = true :=
      List.any_eq_true.mpr ⟨r, known, by simpa using member⟩
    have none : [(property, v)].filter
        (fun entry => !builtinRules.any (·.properties.contains entry.1)) = [] :=
      List.filter_eq_nil_iff.mpr fun entry listed => by
        obtain rfl := List.mem_singleton.mp listed
        rw [declared]
        decide
    have entries : (Assoc.ofList [(property, v)]).entries = [(property, v)] := rfl
    simp only [Compiler.remaining, Compiler.rules_builtin, entries, none]
    simp
  simp only [Compiler.compile, speaks_append, read, or_false, Compiler.emitted, speaks_join,
    Compiler.rules_builtin, List.mem_map, List.mem_filter, applies_single]
  constructor
  · rintro ⟨-, ⟨other, ⟨known, member⟩, rfl⟩, speaks⟩
    exact (speaks_builtin_iff known member written).mp speaks
  · intro loud
    exact ⟨_, ⟨r, ⟨known, member⟩, rfl⟩, (speaks_builtin_iff known member written).mpr loud⟩

/-- A tracked declaration goes without a token only at a numeric edge, or as a side of a box
that is zero. -/
theorem tokens_compile_single (property v : String) (tracked : property ∈ Property.tracked)
    (written : v ≠ "") (stripped : strip v = v) :
    (Compiler.builtin.compile (.ofList [(property, v)])).tokens = [] ↔
      NumericEdge property v ∨ ZeroSide property v := by
  rw [tokens_eq_nil_iff, speaks_compile_single tracked written, Classical.not_not]
  simp [Silent, written, split_ne_nil written stripped]

theorem stacking_untold :
    "z-index" ∈ Property.tracked ∧ "auto" ≠ "" ∧ strip "auto" = "auto" ∧
    (Compiler.builtin.compile (.ofList [("z-index", "auto")])).tokens = [] :=
  ⟨by decide, by decide, by decide,
    (tokens_compile_single "z-index" "auto" (by decide) (by decide) (by decide)).mpr
      (.inl (by simp [NumericEdge]))⟩

/-- A zero side is no edge, and alone it is lost all the same. -/
theorem zeroSide_lost :
    "padding-top" ∈ Property.tracked ∧ "0" ≠ "" ∧ strip "0" = "0" ∧ ¬NumericEdge "padding-top" "0" ∧
    (Compiler.builtin.compile (.ofList [("padding-top", "0")])).tokens = [] := by
  refine ⟨by decide, by decide, by decide, by simp [NumericEdge], by decide +kernel⟩

end Clipping.Utility

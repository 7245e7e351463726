import Clipping.Proofs.Checked.Outputs
import Clipping.Proofs.Utility.Registration

/-! The built-in rules, computed with operations that may fail. A rule that only looks values up in
tables and writes literals has none of them; of the others each part that has one is computed
here, and is what the rule emits. -/
namespace Clipping.Checked

open Text Utility

variable {d : Declarations}

/-! Numbers. -/

def factor (stem : String) (x : Finite) : Checked Output := do
  let text ← plainText (.finite x)
  return .token (stem ++ text ++ "]")

def grow (d : Declarations) : Checked Output :=
  declared d "flex-grow" fun v => do
    match ← finite? v.toList with
    | none => return .declaration "flex-grow" v
    | some x =>
      if x.value = 0 then return .none
      else if x.value = 1 then return .token "grow"
      else factor "grow-[" x

def shrink (d : Declarations) : Checked Output :=
  declared d "flex-shrink" fun v => do
    match ← finite? v.toList with
    | none => return .declaration "flex-shrink" v
    | some x =>
      if x.value = 1 then return .none
      else if x.value = 0 then return .token "shrink-0"
      else factor "shrink-[" x

theorem factor_eq (stem : String) {x : Finite} (within : x.IsWithin) :
    factor stem x = .ok (.token (stem ++ x.plain ++ "]")) := by
  rw [factor, plainText_finite within]
  rfl

@[simp] theorem grow_eq (d : Declarations) : grow d = .ok (Utility.grow d) := by
  refine declared_eq fun v => ?_
  rw [finite?_eq, bind_ok]
  unfold factor?
  cases found : (Decimal.read? v.toList).bind Binary64.finite? with
  | none => rfl
  | some x =>
    simp only [factor_eq _ (isWithin_of_finite found)]
    split
    · rfl
    · split
      · rfl
      · rfl

@[simp] theorem shrink_eq (d : Declarations) : shrink d = .ok (Utility.shrink d) := by
  refine declared_eq fun v => ?_
  rw [finite?_eq, bind_ok]
  unfold factor?
  cases found : (Decimal.read? v.toList).bind Binary64.finite? with
  | none => rfl
  | some x =>
    simp only [factor_eq _ (isWithin_of_finite found)]
    split
    · rfl
    · split
      · rfl
      · rfl

def lineHeight (d : Declarations) : Checked Output :=
  declared d "line-height" fun v => do
    match ← lineHeightName? v with
    | some token => return .token token
    | none => return .unmapped (Literal.value "leading" v) "line-height" v

@[simp] theorem lineHeight_eq (d : Declarations) : lineHeight d = .ok (Utility.lineHeight d) := by
  refine declared_eq fun v => ?_
  rw [lineHeightName?_eq, bind_ok]
  cases Utility.lineHeightName? v with
  | none => rfl
  | some token => rfl

/-! Words. -/

/-- Two equal halves count as one keyword. -/
def place (d : Declarations) (property : String) (table : Keywords) : Checked Output :=
  declared d property fun v => do
    let parts := split v
    if parts.length = 2 then
      let a ← item parts 0
      let b ← item parts 1
      let v := if a = b then a else v
      return keyword table (Literal.declaration property v) property v
    else return keyword table (Literal.declaration property v) property v

def axes (d : Declarations) (both first second property : String) : Checked Output :=
  declared d property fun v => do
    let parts := split v
    if parts.length = 1 then
      let a ← item parts 0
      length both property a
    else if parts.length = 2 then
      let a ← item parts 0
      let b ← item parts 1
      if a = b then length both property a
      else
        let one ← length first property a
        let other ← length second property b
        return one ++ other
    else return .declaration property v

def listStyle (d : Declarations) : Checked Output :=
  declared d "list-style" fun v => do
    let words := split v
    if words.contains "disc" then return .token "list-disc"
    else if words.contains "decimal" then return .token "list-decimal"
    else if words.isEmpty then return .declaration "list-style" v
    else
      let first ← item words 0
      if first = "none" then return .token "list-none" else return .declaration "list-style" v

def outline (d : Declarations) : Checked Output :=
  declared d "outline" fun v => do
    let parts := split v
    if parts.contains "none" then return .token "outline-none"
    else if parts.isEmpty then return .declaration "outline" v
    else
      let width ← item parts 0
      if isZeroWidth width.toList then return .token "outline-none" else return .declaration "outline" v

@[simp] theorem place_eq (property : String) (table : Keywords) :
    place d property table = .ok (Utility.place d property table) := by
  refine declared_eq fun v => ?_
  rcases split v with _ | ⟨a, _ | ⟨b, _ | ⟨c, rest⟩⟩⟩
  · rfl
  · rfl
  · rfl
  · simp

@[simp] theorem axes_eq (both first second property : String) :
    axes d both first second property = .ok (Utility.axes d both first second property) := by
  refine declared_eq fun v => ?_
  rcases split v with _ | ⟨a, _ | ⟨b, _ | ⟨c, rest⟩⟩⟩
  · rfl
  · exact length_eq both property a
  · show (if a = b then length both property a else _) = _
    simp only [length_eq, bind_ok, pure_eq]
    split
    · rfl
    · rfl
  · simp

@[simp] theorem listStyle_eq (d : Declarations) : listStyle d = .ok (Utility.listStyle d) := by
  refine declared_eq fun v => ?_
  simp only
  by_cases disc : (split v).contains "disc" = true
  · simp only [if_pos disc, pure_eq]
  by_cases decimal : (split v).contains "decimal" = true
  · simp only [if_neg disc, if_pos decimal, pure_eq]
  simp only [if_neg disc, if_neg decimal]
  rcases split v with _ | ⟨first, rest⟩
  · rfl
  · by_cases none : first = "none"
    · simp [item, none]
    · simp [item, none]

@[simp] theorem outline_eq (d : Declarations) : outline d = .ok (Utility.declared d "outline" fun v =>
    if (split v).contains "none" || (split v).head?.any fun width => isZeroWidth width.toList then
      .token "outline-none"
    else .declaration "outline" v) := by
  refine declared_eq fun v => ?_
  simp only
  by_cases none : (split v).contains "none" = true
  · simp only [none, if_true, Bool.true_or, pure_eq]
  simp only [Bool.eq_false_iff.mpr none, Bool.false_or]
  rcases split v with _ | ⟨width, rest⟩
  · rfl
  · by_cases zero : isZeroWidth width.toList = true
    · simp [item, zero]
    · simp [item, zero]

/-! Borders. -/

def borderShorthand (stem property value : String) : Checked Output :=
  match borderParts? value.toList with
  | none => return .unmapped stem property value
  | some parts =>
    if !borderStyles.contains parts.style then return .unmapped stem property value
    else if parts.style = "none" ∨ parts.style = "hidden" ∨ isZeroWidth parts.width.toList then
      return .token (stem ++ "-0")
    else do
      let color ← color stem property parts.color
      return borderWidth stem property parts.width ++ borderStyle stem property parts.style value ++ color

def borderColor (d : Declarations) : Checked Output :=
  declared d "border-color" fun v =>
    if v.toList.contains ' ' && !(['r', 'g', 'b'].isPrefixOf v.toList) then
      return .declaration "border-color" v
    else color "border" "border-color" v

theorem borderShorthand_eq (stem property value : String) :
    borderShorthand stem property value = .ok (Utility.borderShorthand stem property value) := by
  unfold borderShorthand Utility.borderShorthand
  cases borderParts? value.toList with
  | none => rfl
  | some parts =>
    simp only [color_eq, bind_ok, pure_eq]
    split
    · rfl
    · split
      · rfl
      · rfl

@[simp] theorem borderColor_eq (d : Declarations) :
    borderColor d = .ok (Utility.declared d "border-color" fun v =>
      if v.toList.contains ' ' && !(['r', 'g', 'b'].isPrefixOf v.toList) then
        .declaration "border-color" v
      else .color "border" "border-color" v) := by
  refine declared_eq fun v => ?_
  simp only [color_eq, pure_eq]
  split
  · rfl
  · rfl

/-! Rules. -/

/-- A rule with what it emits, computed with operations that may fail. -/
structure Rule where
  rule : Utility.Rule
  emit : Declarations → Checked Output

def Rule.plain (r : Utility.Rule) : Rule := ⟨r, fun d => return r.emit d⟩

/-- The rule fails for no declarations, and emits what it emits without tests. -/
def Rule.IsSafe (r : Rule) : Prop := ∀ d, r.emit d = .ok (r.rule.emit d)

def position : Rule where
  rule := positionRule
  emit d := joined [.ok (mapped d "position" positionNames),
    joined (sides.map fun side => measured d side side insetNames)]

def flex : Rule where
  rule := flexRule
  emit d := joined [
    .ok (mappedAfter "flex" d "flex" flexNames),
    .ok (mapped d "flex-direction" directionNames),
    .ok (mapped d "flex-wrap" wrapNames),
    .ok (flow d),
    .ok (mapped d "justify-content" justifyContentNames),
    .ok (mapped d "align-items" alignItemsNames),
    .ok (mapped d "align-content" alignContentNames),
    .ok (mapped d "align-self" alignSelfNames),
    grow d,
    shrink d,
    measured d "basis" "flex-basis" basisNames,
    .ok (order d)]

def grid : Rule where
  rule := gridRule
  emit d := joined [
    .ok (template d "grid-cols" "grid-template-columns"),
    .ok (template d "grid-rows" "grid-template-rows"),
    .ok (span d "col" "grid-column"),
    .ok (span d "row" "grid-row"),
    .ok (verbatim d "grid-template-areas"),
    .ok (verbatim d "grid-area"),
    .ok (mapped d "justify-items" justifyItemsNames),
    place d "place-items" placeItemsNames,
    place d "place-content" placeContentNames]

def gap : Rule where
  rule := gapRule
  emit d :=
    if d.contains "gap" then axes d "gap" "gap-y" "gap-x" "gap"
    else joined [measured d "gap-y" "row-gap" [], measured d "gap-x" "column-gap" []]

def fillText : Rule where
  rule := colorRule
  emit d := joined [
    declared d "background-color" fun v => color "bg" "background-color" v,
    declared d "color" fun v => color "text" "color" v]

def padded (shorthand stem : String) : Rule where
  rule := boxRule shorthand stem
  emit := box shorthand stem

def sizing : Rule where
  rule := sizingRule
  emit d := joined [
    measured d "w" "width" sizeNames,
    measured d "h" "height" sizeNames,
    measured d "min-w" "min-width" sizeNames,
    measured d "max-w" "max-width" sizeNames,
    measured d "min-h" "min-height" sizeNames,
    measured d "max-h" "max-height" sizeNames]

def radius : Rule where
  rule := radiusRule
  emit d := declared d "border-radius" fun v =>
    match radiusNames.lookup v with
    | some token => return .token token
    | none => do
      let full ← isFullRadius v
      if full then return .token "rounded-full"
      else return .unmapped (Literal.value "rounded" v) "border-radius" v

def font : Rule where
  rule := fontRule
  emit d := joined [
    .ok (fontFamily d),
    .ok (mappedAfter "text" d "font-size" fontSizeNames),
    .ok (mappedAfter "font" d "font-weight" fontWeightNames),
    .ok (mapped d "font-style" fontStyleNames),
    .ok (mapped d "font-variant" fontVariantNames),
    lineHeight d]

def border : Rule where
  rule := borderRule
  emit d := joined [
    declared d "border" (borderShorthand "border" "border"),
    joined (borderSides.map fun (property, stem) => declared d property (borderShorthand stem property)),
    .ok (Utility.declared d "border-width" fun v =>
      if v.toList.contains ' ' then .declaration "border-width" v
      else if isZeroWidth v.toList then .token "border-0"
      else borderWidth "border" "border-width" v),
    .ok (Utility.declared d "border-style" fun v =>
      if borderStyles.contains v then .token ("border-" ++ v) else .declaration "border-style" v),
    borderColor d,
    outline d]

def opacity : Rule where
  rule := opacityRule
  emit d := declared d "opacity" fun v => do
    match ← opacityToken? v with
    | none => return .none
    | some token =>
      if "opacity-[".toList.isPrefixOf token.toList then return .unmapped token "opacity" v
      else return .token token

def tabular : Rule where
  rule := tabularRule
  emit d := joined [
    listStyle d,
    .ok (mapped d "table-layout" tableLayoutNames),
    .ok (mapped d "border-collapse" borderCollapseNames),
    axes d "border-spacing" "border-spacing-x" "border-spacing-y" "border-spacing",
    .ok (mappedAfter "align" d "vertical-align" verticalAlignNames)]

def builtin : List Rule := [
  .plain displayRule, position, .plain overflowRule, .plain visibilityRule, flex, grid, gap, fillText,
  .plain backgroundRule, padded "padding" "p", padded "margin" "m", sizing, radius, font,
  .plain textRule, border, opacity, .plain shadowRule, .plain interactionRule, .plain motionRule, tabular]

/-- What the built-in rules emit, and then the declarations that no rule reads. -/
def compile (d : Declarations) : Checked Output := do
  let outputs ← (builtin.filter (·.rule.applies d)).mapM (·.emit d)
  return .join outputs ++ Compiler.builtin.remaining d

theorem isSafe_plain (r : Utility.Rule) : (Rule.plain r).IsSafe := fun _ => rfl

theorem isSafe_position : position.IsSafe := by
  intro d
  simp only [position, joined, joined_map fun side => measured_eq side insetNames, bind_ok, pure_eq,
    Output.append_none]
  rfl

theorem isSafe_flex : flex.IsSafe := by
  intro d
  simp only [flex, joined, grow_eq, shrink_eq, measured_eq, bind_ok, pure_eq]
  rfl

theorem isSafe_grid : grid.IsSafe := by
  intro d
  simp only [grid, joined, place_eq, bind_ok, pure_eq]
  rfl

theorem isSafe_gap : gap.IsSafe := by
  intro d
  simp only [gap, joined, axes_eq, measured_eq, bind_ok, pure_eq, Output.append_none]
  by_cases both : d.contains "gap" = true
  · rw [if_pos both]
    exact congrArg Except.ok (if_pos both).symm
  · rw [if_neg both]
    exact congrArg Except.ok (if_neg both).symm

theorem isSafe_fillText : fillText.IsSafe := by
  intro d
  simp only [fillText, joined, declared_eq fun v => color_eq "bg" "background-color" v,
    declared_eq fun v => color_eq "text" "color" v, bind_ok, pure_eq, Output.append_none]
  rfl

theorem isSafe_padded (shorthand stem : String) : (padded shorthand stem).IsSafe := box_eq shorthand stem

theorem isSafe_sizing : sizing.IsSafe := by
  intro d
  simp only [sizing, joined, measured_eq, bind_ok, pure_eq]
  rfl

theorem isSafe_radius : radius.IsSafe := by
  intro d
  refine declared_eq fun v => ?_
  cases radiusNames.lookup v with
  | some token => rfl
  | none =>
    simp only [isFullRadius_eq, bind_ok, pure_eq]
    split
    · rfl
    · rfl

theorem isSafe_font : font.IsSafe := by
  intro d
  simp only [font, joined, lineHeight_eq, bind_ok, pure_eq]
  rfl

theorem isSafe_border : border.IsSafe := by
  intro d
  have sided (side : String × String) : declared d side.1 (borderShorthand side.2 side.1) =
      .ok (Utility.declared d side.1 (Utility.borderShorthand side.2 side.1)) :=
    declared_eq (borderShorthand_eq side.2 side.1)
  simp only [border, joined, declared_eq (borderShorthand_eq "border" "border"), joined_map sided,
    borderColor_eq, outline_eq, bind_ok, pure_eq]
  rfl

theorem isSafe_opacity : opacity.IsSafe := by
  intro d
  refine declared_eq fun v => ?_
  rw [opacityToken?_eq, bind_ok]
  cases Utility.opacityToken? v with
  | none => rfl
  | some token =>
    simp only [pure_eq]
    split
    · rfl
    · rfl

theorem isSafe_tabular : tabular.IsSafe := by
  intro d
  simp only [tabular, joined, listStyle_eq, axes_eq, bind_ok, pure_eq]
  rfl

theorem isSafe_builtin : ∀ r ∈ builtin, r.IsSafe := by
  simp only [builtin, List.forall_mem_cons, isSafe_plain, isSafe_position, isSafe_flex, isSafe_grid,
    isSafe_gap, isSafe_fillText, isSafe_padded, isSafe_sizing, isSafe_radius, isSafe_font,
    isSafe_border, isSafe_opacity, isSafe_tabular, true_and]
  exact List.forall_mem_nil _

theorem map_rule_builtin : builtin.map Rule.rule = builtinRules := rfl

@[simp] theorem compile_eq (d : Declarations) : compile d = .ok (Compiler.builtin.compile d) := by
  have safe : ∀ r ∈ builtin.filter (·.rule.applies d), r.emit d = .ok (r.rule.emit d) :=
    fun r member => isSafe_builtin r (List.mem_filter.mp member).1 d
  unfold compile Compiler.compile Compiler.emitted
  rw [mapM_ok safe, bind_ok, Compiler.rules_builtin, ← map_rule_builtin, List.filter_map, List.map_map]
  rfl

end Clipping.Checked

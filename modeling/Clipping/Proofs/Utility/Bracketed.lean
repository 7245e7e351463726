import Clipping.Proofs.Utility.Explained

/-! The notes of the built-in rules, rule by rule: each is of a literal that is emitted, and no
literal goes without one. -/
namespace Clipping.Utility

open Output

variable {d : Declarations} {property stem : String}

/-! Borders. -/

theorem explained_borderWidth {w : String} (found : d.get? property = some w) (plain : IsBare stem)
    (width : String) : (borderWidth stem property width).Explained d := by
  have suffixes : widthSuffixes.IsBare := by decide
  unfold borderWidth
  split
  · next suffix named => exact .bare (isBare_append.mpr ⟨plain, suffixes.lookup named⟩)
  · exact .literal found stem width width

theorem explained_borderStyle {w style : String} (found : d.get? property = some w)
    (listed : borderStyles.contains style = true) (value : String) :
    (borderStyle stem property style value).Explained d := by
  have names : ∀ style ∈ borderStyles, IsBare ("border-" ++ style) := by decide
  unfold borderStyle
  split
  · exact .none
  · split
    · exact .bare (names style (List.contains_iff_mem.mp listed))
    · exact .unmapped found (by simp [Literal.declaration]) value

theorem explained_borderShorthand {w : String} (found : d.get? property = some w) (plain : IsBare stem)
    (written : stem ≠ "") (value : String) : (borderShorthand stem property value).Explained d := by
  unfold borderShorthand
  split
  · exact .unmapped found written value
  · next parts _ =>
    split
    · exact .unmapped found written value
    · next listed =>
      split
      · exact .bare (isBare_append.mpr ⟨plain, by decide⟩)
      · exact .append (.append (explained_borderWidth found plain parts.width)
          (explained_borderStyle found (by simpa using listed) value)) (.color found plain parts.color)

/-! Texts, effects and tables. -/

theorem explained_fontFamily : (fontFamily d).Explained d :=
  explained_declared fun v found => .literal found "font" _ v

theorem explained_fontVariant : (mapped d "font-variant" fontVariantNames).Explained d := by
  refine explained_declared fun v found => ?_
  unfold keyword
  split
  · next token named =>
    obtain ⟨rfl, rfl⟩ := Prod.mk.inj (List.mem_singleton.mp (Keywords.mem_of_lookup named))
    exact .direct (.smallCaps found)
  · exact .unmapped found (by simp [Literal.declaration]) v

theorem explained_lineHeight : (lineHeight d).Explained d := by
  have names : lineHeightNames.IsBare := by decide
  refine explained_declared fun v found => ?_
  split
  · next token named =>
    obtain ⟨factor, listed⟩ := mem_of_lineHeightName named
    exact .bare (names _ listed)
  · exact .literal found "leading" v v

theorem explained_decoration : (decoration d).Explained d := by
  refine explained_declared fun v found => ?_
  simp only
  split
  · exact .bare (by decide)
  · split
    · exact .bare (by decide)
    · split
      · exact .bare (by decide)
      · split
        · exact .bare (by decide)
        · exact .literal found "decoration" v v

/-- A token of opacity starts as its literals do only where it is one. -/
theorem explained_opacityRule : (opacityRule.emit d).Explained d := by
  have names : ∀ part ∈ opacityScale, IsBare ("opacity-" ++ toString part) := by decide
  refine explained_declared fun v found => ?_
  split
  · exact .none
  · next token read =>
    rcases opacityToken?_cases read with rfl | ⟨part, listed, rfl⟩
    · have literal : "opacity-[".toList.isPrefixOf (Literal.value "opacity" v).toList = true := by
        simp [Literal.value, Literal.bracketed]
      rw [if_pos literal]
      exact .literal found "opacity" v v
    · split
      · exact .unmapped found (by simp) v
      · exact .bare (names part listed)

theorem explained_boxShadow : (boxShadow d).Explained d := by
  have names : shadowNames.IsBare := by decide
  refine explained_declared fun v found => ?_
  split
  · next named => exact .bare (names _ (List.mem_of_find?_eq_some named))
  · exact .literal found "shadow" v v

theorem explained_stacking : (stacking d).Explained d := by
  refine explained_declared fun v found => ?_
  split
  · exact .none
  · exact explained_keyword found (by decide) (by simp [Literal.value]) v

theorem explained_listStyle : (listStyle d).Explained d := by
  refine explained_declared fun v found => ?_
  simp only
  split
  · exact .bare (by decide)
  · split
    · exact .bare (by decide)
    · split
      · exact .bare (by decide)
      · exact .declaration found v

/-! Rules. -/

theorem explained_positionRule : (positionRule.emit d).Explained d := by
  have names : ∀ side ∈ sides, IsBare side ∧ side ∈ spaced := by decide
  refine .append (explained_mapped (by decide)) (.join fun o member => ?_)
  obtain ⟨side, listed, rfl⟩ := List.mem_map.mp member
  exact explained_measured (names side listed).1 (by decide) (names side listed).2

theorem explained_overflowRule : (overflowRule.emit d).Explained d := by
  refine .append (.append (explained_overflow ?_) (explained_overflow ?_)) (explained_overflow ?_)
  all_goals decide

theorem explained_visibilityRule : (visibilityRule.emit d).Explained d := by
  refine .append (.append (.append ?_ ?_) ?_) ?_
  all_goals exact explained_mapped (by decide)

theorem explained_flexRule : (flexRule.emit d).Explained d := by
  refine .row ⟨explained_mappedAfter ?_, explained_mapped ?_, explained_mapped ?_, explained_flow,
    explained_mapped ?_, explained_mapped ?_, explained_mapped ?_, explained_mapped ?_, explained_grow,
    explained_shrink, explained_measured ?_ ?_ ?_, explained_order⟩
  all_goals decide

theorem explained_gridRule : (gridRule.emit d).Explained d := by
  refine .row ⟨explained_template ?_, explained_template ?_, explained_span ?_, explained_span ?_,
    explained_verbatim, explained_verbatim, explained_mapped ?_, explained_place ?_, explained_place ?_⟩
  all_goals decide

theorem explained_gapRule : (gapRule.emit d).Explained d := by
  simp only [gapRule]
  split
  · refine explained_axes ?_ ?_ ?_ ?_
    all_goals decide
  · refine .append (explained_measured ?_ ?_ ?_) (explained_measured ?_ ?_ ?_)
    all_goals decide

theorem explained_backgroundRule : (backgroundRule.emit d).Explained d := by
  refine .row ⟨explained_declared fun v found => .literal found "bg" v v, explained_mapped ?_,
    explained_mapped ?_, explained_mapped ?_⟩
  all_goals decide

theorem explained_sizingRule : (sizingRule.emit d).Explained d := by
  have names : sizeNames.IsBare := by decide
  refine .row ⟨explained_measured ?_ names ?_, explained_measured ?_ names ?_, explained_measured ?_ names ?_,
    explained_measured ?_ names ?_, explained_measured ?_ names ?_, explained_measured ?_ names ?_⟩
  all_goals decide

theorem explained_radiusRule : (radiusRule.emit d).Explained d := by
  have names : radiusNames.IsBare := by decide
  refine explained_declared fun v found => ?_
  split
  · next token named => exact .bare (names.lookup named)
  · split
    · exact .bare (by decide)
    · exact .literal found "rounded" v v

theorem explained_fontRule : (fontRule.emit d).Explained d := by
  refine .row ⟨explained_fontFamily, explained_mappedAfter ?_, explained_mappedAfter ?_, explained_mapped ?_,
    explained_fontVariant, explained_lineHeight⟩
  all_goals decide

theorem explained_textRule : (textRule.emit d).Explained d := by
  refine .row ⟨explained_mapped ?_, explained_decoration, explained_mapped ?_, explained_mappedAfter ?_,
    explained_verbatim, explained_mapped ?_, explained_mapped ?_⟩
  all_goals decide

theorem explained_borderRule : (borderRule.emit d).Explained d := by
  have names : ∀ side ∈ borderSides, IsBare side.2 ∧ side.2 ≠ "" := by decide
  refine .row ⟨?border, ?sides, ?width, ?style, ?color, ?outline⟩
  case border =>
    exact explained_declared fun v found => explained_borderShorthand found (by decide) (by decide) v
  case sides =>
    refine .join fun o member => ?_
    obtain ⟨side, listed, rfl⟩ := List.mem_map.mp member
    obtain ⟨plain, written⟩ := names side listed
    exact explained_declared fun v found => explained_borderShorthand found plain written v
  case width =>
    refine explained_declared fun v found => ?_
    split
    · exact .declaration found v
    · split
      · exact .bare (by decide)
      · exact explained_borderWidth found (by decide) v
  case style =>
    have styles : ∀ style ∈ borderStyles, IsBare ("border-" ++ style) := by decide
    refine explained_declared fun v found => ?_
    split
    · next listed => exact .bare (styles v (List.contains_iff_mem.mp listed))
    · exact .declaration found v
  case color =>
    refine explained_declared fun v found => ?_
    split
    · exact .declaration found v
    · exact .color found (by decide) v
  case outline =>
    refine explained_declared fun v found => ?_
    split
    · exact .bare (by decide)
    · exact .declaration found v

theorem explained_motionRule : (motionRule.emit d).Explained d := by
  refine .append explained_verbatim (explained_declared fun v found => ?_)
  split
  · exact .bare (by decide)
  · exact .declaration found v

theorem explained_tabularRule : (tabularRule.emit d).Explained d := by
  refine .row ⟨explained_listStyle, explained_mapped ?_, explained_mapped ?_, explained_axes ?_ ?_ ?_ ?_,
    explained_mappedAfter ?_⟩
  all_goals decide

theorem explained_builtin {r : Rule} (known : r ∈ builtinRules) : (r.emit d).Explained d := by
  simp only [builtinRules, List.mem_cons, List.not_mem_nil, or_false] at known
  rcases known with rfl | rfl | rfl | rfl | rfl | rfl | rfl | rfl | rfl | rfl | rfl | rfl | rfl |
    rfl | rfl | rfl | rfl | rfl | rfl | rfl | rfl
  · exact explained_mapped (by decide)
  · exact explained_positionRule
  · exact explained_overflowRule
  · exact explained_visibilityRule
  · exact explained_flexRule
  · exact explained_gridRule
  · exact explained_gapRule
  · exact .append (explained_colored (by decide)) (explained_colored (by decide))
  · exact explained_backgroundRule
  · exact explained_boxRule (by decide) (by decide)
  · exact explained_boxRule (by decide) (by decide)
  · exact explained_sizingRule
  · exact explained_radiusRule
  · exact explained_fontRule
  · exact explained_textRule
  · exact explained_borderRule
  · exact explained_opacityRule
  · exact .append explained_boxShadow explained_verbatim
  · exact .append (.append (explained_mappedAfter (by decide)) (explained_mapped (by decide))) explained_stacking
  · exact explained_motionRule
  · exact explained_tabularRule

/-! Compiled declarations. -/

theorem explained_remaining (c : Compiler) (d : Declarations) : (c.remaining d).Explained d := by
  refine .join fun o member => ?_
  obtain ⟨⟨property, v⟩, listed, rfl⟩ := List.mem_map.mp member
  exact .declaration (Assoc.get?_eq_some_iff.mpr (List.mem_filter.mp listed).1) v

theorem explained_compile (d : Declarations) : (Compiler.builtin.compile d).Explained d := by
  refine .append (.join fun o member => ?_) (explained_remaining _ d)
  obtain ⟨r, applying, rfl⟩ := List.mem_map.mp member
  rw [Compiler.rules_builtin] at applying
  exact explained_builtin (List.mem_filter.mp applying).1

/-- Each note is of a declared property and explains a token: the token is what was noted, or ends in
it where that is the key of a length. The other way round each token with a bracket is explained by a
note, unless it is a growth, a shrinking, an order or small capitals. -/
theorem brackets_explained (d : Declarations) :
    (∀ f ∈ (Compiler.builtin.compile d).fallbacks,
      f.property ∈ d.keys ∧ ∃ t ∈ (Compiler.builtin.compile d).tokens, f.Explains t) ∧
    ∀ t ∈ (Compiler.builtin.compile d).tokens, '[' ∈ t.toList →
      (∃ f ∈ (Compiler.builtin.compile d).fallbacks, f.Explains t) ∨ Direct d t := by
  have explained := explained_compile d
  constructor
  · intro f noted
    obtain ⟨declared, t, emitted, explains⟩ := explained.sound f noted
    exact ⟨(d.mem_keys_iff f.property).mpr declared, t, List.mem_eraseDups.mpr emitted, explains⟩
  · intro t token bracket
    exact explained.complete t (List.mem_eraseDups.mp token) bracket

end Clipping.Utility

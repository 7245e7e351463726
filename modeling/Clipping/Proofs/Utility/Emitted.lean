import Clipping.Proofs.Utility.Standing

/-! What the built-in rules emit, rule by rule. All put their tokens together from plain texts and
from escaped values but one: the order of an item goes into its token as it is. -/
namespace Clipping.Utility

open Output

variable {d : Declarations}

theorem spliced_positionRule : (positionRule.emit d).IsSpliced (Stands d) := by
  have names : ∀ side ∈ sides, IsPlain side := by decide
  refine .append (spliced_mapped (by decide) (by decide)) (.join fun o member => ?_)
  obtain ⟨side, listed, rfl⟩ := List.mem_map.mp member
  exact spliced_measured (names side listed) (by decide)

theorem spliced_overflowRule : (overflowRule.emit d).IsSpliced (Stands d) := by
  refine .append (.append (spliced_overflow ?_) (spliced_overflow ?_)) (spliced_overflow ?_)
  all_goals decide

theorem spliced_visibilityRule : (visibilityRule.emit d).IsSpliced (Stands d) := by
  refine .append (.append (.append ?_ ?_) ?_) ?_
  all_goals exact spliced_mapped (by decide) (by decide)

theorem spliced_flexRule :
    ∀ t ∈ (flexRule.emit d).emitted, (t ≠ "" ∧ Spliced (Stands d) t) ∨ t ∈ (order d).emitted := by
  have others : (join [mappedAfter "flex" d "flex" flexNames, mapped d "flex-direction" directionNames,
      mapped d "flex-wrap" wrapNames, flow d, mapped d "justify-content" justifyContentNames,
      mapped d "align-items" alignItemsNames, mapped d "align-content" alignContentNames,
      mapped d "align-self" alignSelfNames, grow d, shrink d,
      measured d "basis" "flex-basis" basisNames]).IsSpliced (Stands d) := by
    refine .row ⟨spliced_mappedAfter ?_ ?_, spliced_mapped ?_ ?_, spliced_mapped ?_ ?_, spliced_flow,
      spliced_mapped ?_ ?_, spliced_mapped ?_ ?_, spliced_mapped ?_ ?_, spliced_mapped ?_ ?_,
      spliced_grow, spliced_shrink, spliced_measured ?_ ?_⟩
    all_goals decide
  intro t member
  simp only [flexRule, emitted_join, List.flatMap_cons, List.flatMap_nil, List.append_nil,
    ← List.append_assoc] at member
  rcases List.mem_append.mp member with own | last
  · refine .inl (others t ?_)
    simpa only [emitted_join, List.flatMap_cons, List.flatMap_nil, List.append_nil,
      ← List.append_assoc] using own
  · exact .inr last

theorem spliced_gridRule : (gridRule.emit d).IsSpliced (Stands d) := by
  refine .row ⟨spliced_template ?_, spliced_template ?_, spliced_span ?_, spliced_span ?_,
    spliced_verbatim ?_, spliced_verbatim ?_, spliced_mapped ?_ ?_, spliced_place ?_ ?_,
    spliced_place ?_ ?_⟩
  all_goals decide

theorem spliced_gapRule : (gapRule.emit d).IsSpliced (Stands d) := by
  simp only [gapRule]
  split
  · refine spliced_axes ?_ ?_ ?_ ?_ fun word member => ?_
    case refine_5 => simp [takenApart, member]
    all_goals decide
  · refine .append (spliced_measured ?_ ?_) (spliced_measured ?_ ?_)
    all_goals decide

theorem spliced_backgroundRule : (backgroundRule.emit d).IsSpliced (Stands d) := by
  refine .row ⟨spliced_declared fun v found => .unmapped (.value ?_ (.whole found)) _ v,
    spliced_mapped ?_ ?_, spliced_mapped ?_ ?_, spliced_mapped ?_ ?_⟩
  all_goals decide

theorem spliced_sizingRule : (sizingRule.emit d).IsSpliced (Stands d) := by
  have names : sizeNames.IsPlain := by decide
  refine .row ⟨spliced_measured ?_ names, spliced_measured ?_ names, spliced_measured ?_ names,
    spliced_measured ?_ names, spliced_measured ?_ names, spliced_measured ?_ names⟩
  all_goals decide

theorem spliced_radiusRule : (radiusRule.emit d).IsSpliced (Stands d) := by
  refine spliced_declared fun v found => ?_
  split
  · next token named => exact .plain (Keywords.IsPlain.lookup (by decide) named)
  · split
    · exact .plain (by decide)
    · exact .unmapped (.value (by decide) (.whole found)) _ v

theorem spliced_fontRule : (fontRule.emit d).IsSpliced (Stands d) := by
  refine .row ⟨spliced_fontFamily, spliced_mappedAfter ?_ ?_, spliced_mappedAfter ?_ ?_,
    spliced_mapped ?_ ?_, spliced_mapped ?_ ?_, spliced_lineHeight⟩
  all_goals decide

theorem spliced_textRule : (textRule.emit d).IsSpliced (Stands d) := by
  refine .row ⟨spliced_mapped ?_ ?_, spliced_decoration, spliced_mapped ?_ ?_, spliced_mappedAfter ?_ ?_,
    spliced_verbatim ?_, spliced_mapped ?_ ?_, spliced_mapped ?_ ?_⟩
  all_goals decide

theorem spliced_borderRule : (borderRule.emit d).IsSpliced (Stands d) := by
  have names : ∀ side ∈ borderSides, IsPlain side.1 ∧ IsPlain side.2 := by decide
  refine .row ⟨spliced_declared fun v found => spliced_borderShorthand (by decide) (by decide) found,
    .join fun o member => ?_, spliced_declared fun v found => ?_, spliced_declared fun v found => ?_,
    spliced_declared fun v found => ?_, spliced_declared fun v found => ?_⟩
  · obtain ⟨side, listed, rfl⟩ := List.mem_map.mp member
    exact spliced_declared fun v found =>
      spliced_borderShorthand (names side listed).2 (names side listed).1 found
  · split
    · exact .declaration (by decide) (.whole found)
    · split
      · exact .plain (by decide)
      · exact spliced_borderWidth (by decide) (.whole found)
  · split
    · next listed => exact .plain (.append (by decide) (isPlain_of_borderStyles listed).1)
    · exact .declaration (by decide) (.whole found)
  · split
    · exact .declaration (by decide) (.whole found)
    · exact .color (by decide) _ (.whole found)
  · split
    · exact .plain (by decide)
    · exact .declaration (by decide) (.whole found)

theorem spliced_motionRule : (motionRule.emit d).IsSpliced (Stands d) := by
  refine .append (spliced_verbatim (by decide)) (spliced_declared fun v found => ?_)
  split
  · exact .plain (by decide)
  · exact .declaration (by decide) (.whole found)

theorem spliced_tabularRule : (tabularRule.emit d).IsSpliced (Stands d) := by
  refine .row ⟨spliced_listStyle, spliced_mapped ?_ ?_, spliced_mapped ?_ ?_,
    spliced_axes ?_ ?_ ?_ ?_ fun word member => ?_, spliced_mappedAfter ?_ ?_⟩
  case refine_9 => simp [takenApart, member]
  all_goals decide

theorem spliced_builtin {r : Rule} (known : r ∈ builtinRules) :
    ∀ t ∈ (r.emit d).emitted, (t ≠ "" ∧ Spliced (Stands d) t) ∨ t ∈ (order d).emitted := by
  have whole {o : Output} (all : o.IsSpliced (Stands d)) :
      ∀ t ∈ o.emitted, (t ≠ "" ∧ Spliced (Stands d) t) ∨ t ∈ (order d).emitted :=
    fun t member => .inl (all t member)
  simp only [builtinRules, List.mem_cons, List.not_mem_nil, or_false] at known
  rcases known with rfl | rfl | rfl | rfl | rfl | rfl | rfl | rfl | rfl | rfl | rfl | rfl | rfl |
    rfl | rfl | rfl | rfl | rfl | rfl | rfl | rfl
  · exact whole (spliced_mapped (by decide) (by decide))
  · exact whole spliced_positionRule
  · exact whole spliced_overflowRule
  · exact whole spliced_visibilityRule
  · exact spliced_flexRule
  · exact whole spliced_gridRule
  · exact whole spliced_gapRule
  · exact whole (.append (spliced_colored (by decide)) (spliced_colored (by decide)))
  · exact whole spliced_backgroundRule
  · exact whole (spliced_boxRule (by decide) (by decide) fun word member => by simp [takenApart, member])
  · exact whole (spliced_boxRule (by decide) (by decide) fun word member => by simp [takenApart, member])
  · exact whole spliced_sizingRule
  · exact whole spliced_radiusRule
  · exact whole spliced_fontRule
  · exact whole spliced_textRule
  · exact whole spliced_borderRule
  · exact whole spliced_opacityRule
  · exact whole (.append spliced_boxShadow (spliced_verbatim (by decide)))
  · refine whole (.append (.append (spliced_mappedAfter ?_ ?_) (spliced_mapped ?_ ?_)) spliced_stacking)
    all_goals decide
  · exact whole spliced_motionRule
  · exact whole spliced_tabularRule

/-! Compiled declarations. -/

theorem mem_emitted_order {t : String} (member : t ∈ (order d).emitted) :
    ∃ v, d.get? "order" = some v ∧ t = "order-[" ++ v ++ "]" := by
  unfold order declared at member
  cases found : d.get? "order" with
  | none => simp [found] at member
  | some v =>
    refine ⟨v, rfl, ?_⟩
    simp only [found] at member
    split at member
    · cases member
    · simpa [token] using member

/-- An order with blanks in it is emitted with them. -/
theorem order_emitted {v : String} (found : d.get? "order" = some v) (broken : ¬IsUnbroken v) :
    "order-[" ++ v ++ "]" ∈ (order d).emitted := by
  have other : ¬(v = "" ∨ v = "0") := by
    rintro (rfl | rfl)
    · exact broken (by decide)
    · exact broken (by decide)
  simp [order, declared, found, other, token]

theorem remaining_of_tracked (tracked : ∀ p ∈ d.keys, p ∈ Property.tracked) :
    Compiler.builtin.remaining d = .none := by
  have read : unread builtinRules d = [] := by
    refine List.filter_eq_nil_iff.mpr fun entry member unread => ?_
    obtain ⟨r, known, listed⟩ :=
      exists_rule_of_tracked entry.1 (tracked entry.1 (List.mem_map_of_mem member))
    have found : builtinRules.any (·.properties.contains entry.1) = true :=
      List.any_eq_true.mpr ⟨r, known, List.contains_iff_mem.mpr listed⟩
    rw [found] at unread
    cases unread
  rw [Compiler.remaining_eq, Compiler.rules_builtin, read]
  rfl

/-- Where a single rule applies, it alone emits. -/
theorem compile_of_single (tracked : ∀ p ∈ d.keys, p ∈ Property.tracked) {r : Rule}
    (single : builtinRules.filter (·.applies d) = [r]) : Compiler.builtin.compile d = r.emit d := by
  rw [Compiler.compile, remaining_of_tracked tracked, append_none, Compiler.emitted, Compiler.rules_builtin,
    single]
  exact append_none _

/-- So it is where all that is declared is read by one rule. -/
theorem compile_of_reads {r : Rule} (known : r ∈ builtinRules) (own : ∀ p ∈ d.keys, p ∈ r.properties)
    (some : d.keys ≠ []) : Compiler.builtin.compile d = r.emit d := by
  refine compile_of_single (fun p member => tracked_of_reads known (own p member)) ?_
  refine filter_eq_singleton (List.Nodup.of_map Rule.id Compiler.nodup_ids_builtin) known fun s other => ?_
  rw [Rule.applies, List.any_eq_true]
  constructor
  · rintro ⟨p, reads, contained⟩
    exact eq_of_reads other known reads (own p ((d.mem_keys_iff p).mpr contained))
  · rintro rfl
    obtain ⟨p, member⟩ := List.exists_mem_of_ne_nil _ some
    exact ⟨p, own p member, (d.mem_keys_iff p).mp member⟩

theorem mem_emitted_compile (tracked : ∀ p ∈ d.keys, p ∈ Property.tracked) {t : String} :
    t ∈ (Compiler.builtin.compile d).emitted ↔
      ∃ r ∈ builtinRules, r.applies d = true ∧ t ∈ (r.emit d).emitted := by
  rw [Compiler.compile, remaining_of_tracked tracked, append_none, Compiler.emitted, emitted_join,
    Compiler.rules_builtin]
  simp [and_assoc]

/-- What the rule of a declared property emits is a token. -/
theorem mem_tokens_of_emitted (tracked : ∀ p ∈ d.keys, p ∈ Property.tracked) {r : Rule} (known : r ∈ builtinRules)
    {property : String} (listed : property ∈ r.properties) (declared : d.contains property = true) {t : String}
    (member : t ∈ (r.emit d).emitted) : t ∈ (Compiler.builtin.compile d).tokens := by
  have applies : r.applies d = true := List.any_eq_true.mpr ⟨property, listed, declared⟩
  exact List.mem_eraseDups.mpr ((mem_emitted_compile tracked).mpr ⟨r, known, applies, member⟩)

/-! Declarations that differ in one property. -/

theorem get?_of_erase_eq {other : Declarations} {name p : String} (same : d.erase name = other.erase name)
    (apart : p ≠ name) : d.get? p = other.get? p := by
  have kept (m : Declarations) : (m.erase name).get? p = m.get? p :=
    Assoc.get?_filter_of_keep fun _ => by simpa using apart
  rw [← kept d, ← kept other, same]

/-- A declaration that some rule reads is none of the rest. -/
theorem unread_of_erase_eq {other : Declarations} {rules : List Rule} {r : Rule} {name : String}
    (same : d.erase name = other.erase name) (listed : r ∈ rules) (reads : name ∈ r.properties) :
    unread rules d = unread rules other := by
  have read : rules.any (·.properties.contains name) = true :=
    List.any_eq_true.mpr ⟨r, listed, List.contains_iff_mem.mpr reads⟩
  have left (m : Declarations) : unread rules m = unread rules (m.erase name) := by
    unfold unread Assoc.erase Assoc.filter
    rw [List.filter_filter]
    refine List.filter_congr fun entry _ => ?_
    by_cases own : entry.1 = name
    · simp only [own, read, Bool.not_true, Bool.false_and]
    · simp [own]
  rw [left d, left other, same]

/-- Around what one rule emits stands what the others say. -/
theorem compile_around {pre post : List Rule} {r : Rule} (split : builtinRules = pre ++ r :: post)
    (applies : r.applies d = true) : Compiler.builtin.compile d =
      join (pre.map fun s => (Compiler.only s).compile (d.restricted s.properties)) ++ r.emit d ++
        (join (post.map fun s => (Compiler.only s).compile (d.restricted s.properties)) ++
          Compiler.builtin.remaining d) := by
  have dependsOn : ∀ s ∈ Compiler.builtin.rules, DependsOn s.properties s.emit := by
    rw [Compiler.rules_builtin]
    exact fun s listed => builtin_dependsOn listed
  have own : (Compiler.only r).compile (d.restricted r.properties) = r.emit d := by
    rw [Compiler.compile_only (builtin_dependsOn (by simp [split])), if_pos applies]
  rw [Compiler.compile_eq dependsOn, Compiler.rules_builtin, split, List.map_append, join_append, List.map_cons, own]
  simp only [join, List.foldr_cons, append_assoc]

/-- What is compiled differs only in what the rule of the property emits. -/
theorem compile_apart {other : Declarations} {r : Rule} {name : String} (known : r ∈ builtinRules)
    (reads : name ∈ r.properties) (same : d.erase name = other.erase name) (applies : r.applies d = true)
    (appliesOther : r.applies other = true) :
    ∃ before after, Compiler.builtin.compile d = before ++ r.emit d ++ after ∧
      Compiler.builtin.compile other = before ++ r.emit other ++ after := by
  obtain ⟨pre, post, split⟩ := List.append_of_mem known
  have distinct : (pre ++ r :: post).Nodup := split ▸ .of_map Rule.id Compiler.nodup_ids_builtin
  obtain ⟨fresh, -⟩ := List.nodup_cons.mp (List.nodup_middle.mp distinct)
  have alike : ∀ s ∈ pre ++ post, (Compiler.only s).compile (d.restricted s.properties) =
      (Compiler.only s).compile (other.restricted s.properties) := by
    intro s member
    have listed : s ∈ builtinRules := by
      rw [split]
      exact List.mem_append.mpr ((List.mem_append.mp member).imp_right (List.mem_cons_of_mem r))
    have answers : ∀ p ∈ s.properties, d.get? p = other.get? p := by
      intro p own
      refine get?_of_erase_eq same ?_
      rintro rfl
      exact fresh (eq_of_reads listed known own reads ▸ member)
    rw [Compiler.compile_only (builtin_dependsOn listed), Compiler.compile_only (builtin_dependsOn listed),
      Rule.applies_congr answers, builtin_dependsOn listed d other answers]
  obtain ⟨first, last⟩ := List.forall_mem_append.mp alike
  have remaining : Compiler.builtin.remaining d = Compiler.builtin.remaining other := by
    rw [Compiler.remaining_eq, Compiler.remaining_eq, Compiler.rules_builtin,
      unread_of_erase_eq same known reads]
  refine ⟨_, _, compile_around split applies, ?_⟩
  rw [compile_around split appliesOther, List.map_congr_left first, List.map_congr_left last, remaining]

end Clipping.Utility

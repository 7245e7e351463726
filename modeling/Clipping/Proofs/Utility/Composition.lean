import Clipping.Proofs.Assoc.Entries
import Clipping.Proofs.List.Distinct
import Clipping.Proofs.Utility.Reading
import Clipping.Proofs.Utility.Registration

/-! Rules do not meddle with each other. A compiler says what each of its rules says by
itself of the declarations that the rule reads, one rule after another, and last the
literals of what no rule reads. -/
namespace Clipping

namespace Utility

open Output

namespace Output

theorem emitted_join (outputs : List Output) : (join outputs).emitted = outputs.flatMap emitted := by
  induction outputs with
  | nil => rfl
  | cons o rest ih =>
    show o.emitted ++ (join rest).emitted = _
    rw [ih, List.flatMap_cons]

theorem fallbacks_join (outputs : List Output) :
    (join outputs).fallbacks = outputs.flatMap fallbacks := by
  induction outputs with
  | nil => rfl
  | cons o rest ih =>
    show o.fallbacks ++ (join rest).fallbacks = _
    rw [ih, List.flatMap_cons]

theorem join_append (outputs later : List Output) : join (outputs ++ later) = join outputs ++ join later := by
  induction outputs with
  | nil => exact (none_append _).symm
  | cons o rest ih =>
    show o ++ join (rest ++ later) = o ++ join rest ++ join later
    rw [ih, append_assoc]

theorem emitted_tokens {ts : List String} (written : ∀ t ∈ ts, t ≠ "") : (join (ts.map token)).emitted = ts := by
  induction ts with
  | nil => rfl
  | cons t ts ih =>
    obtain ⟨first, others⟩ := List.forall_mem_cons.mp written
    have own : (token t).emitted = [t] := by simp [token, first]
    rw [emitted_join] at ih ⊢
    rw [List.map_cons, List.flatMap_cons, own, ih others]
    rfl

theorem fallbacks_tokens (ts : List String) : (join (ts.map token)).fallbacks = [] := by
  rw [fallbacks_join, List.flatMap_map, List.flatMap_eq_nil_iff]
  exact fun _ _ => rfl

theorem emitted_color (stem property v : String) :
    (color stem property v).emitted = (token (Color.token v stem).token).emitted := by
  unfold color
  simp only
  split
  · rfl
  · rfl

/-- What is left out says nothing. -/
theorem join_filter_map {α : Type} (xs : List α) (keep : α → Bool) (f : α → Output) :
    join ((xs.filter keep).map f) = join (xs.map fun x => if keep x then f x else none) := by
  induction xs with
  | nil => rfl
  | cons x rest ih =>
    cases kept : keep x with
    | true =>
      simp only [List.filter_cons, kept, if_true, List.map_cons]
      exact congrArg (f x ++ ·) ih
    | false =>
      simp only [List.filter_cons, kept, Bool.false_eq_true, if_false, List.map_cons]
      exact ih

end Output

def Compiler.only (r : Rule) : Compiler := ⟨[r], by simp⟩

end Utility

def Assoc.restricted (d : Declarations) (properties : List String) : Declarations :=
  d.filter fun name _ => properties.contains name

theorem Assoc.get?_restricted {d : Declarations} {properties : List String} {p : String}
    (member : p ∈ properties) : (d.restricted properties).get? p = d.get? p :=
  get?_filter_of_keep fun _ => by simpa using member

namespace Utility

open Output

theorem Rule.applies_congr {r : Rule} {d other : Declarations}
    (same : ∀ p ∈ r.properties, d.get? p = other.get? p) : r.applies d = r.applies other := by
  unfold Rule.applies Assoc.contains
  rw [Bool.eq_iff_iff, List.any_eq_true, List.any_eq_true]
  exact exists_congr fun p => and_congr_right fun member => by rw [same p member]

def unread (rules : List Rule) (d : Declarations) : List (String × String) :=
  d.entries.filter fun entry => !rules.any (·.properties.contains entry.1)

namespace Compiler

theorem remaining_eq (c : Compiler) (d : Declarations) : c.remaining d =
    .join ((unread c.rules d).map fun entry => .declaration entry.1 entry.2) := rfl

/-- A rule by itself, where all is of its properties. -/
theorem compile_only {r : Rule} (reads : DependsOn r.properties r.emit) (d : Declarations) :
    (only r).compile (d.restricted r.properties) = if r.applies d then r.emit d else .none := by
  have same : ∀ p ∈ r.properties, (d.restricted r.properties).get? p = d.get? p :=
    fun _ member => Assoc.get?_restricted member
  have none : unread [r] (d.restricted r.properties) = [] :=
    List.filter_eq_nil_iff.mpr fun entry member => by
      have kept : r.properties.contains entry.1 = true := (List.mem_filter.mp member).2
      simp only [List.any_cons, List.any_nil, Bool.or_false, kept]
      decide
  have rules : (only r).rules = [r] := rfl
  rw [compile, remaining_eq, emitted, rules, none]
  simp only [List.filter_cons, List.filter_nil, Rule.applies_congr same]
  cases r.applies d with
  | true =>
    simp only [if_true, List.map_cons, List.map_nil, reads _ d same]
    show (r.emit d ++ .none) ++ .none = r.emit d
    rw [append_none, append_none]
  | false => rfl

theorem compile_eq {c : Compiler} (reads : ∀ r ∈ c.rules, DependsOn r.properties r.emit)
    (d : Declarations) : c.compile d =
      .join (c.rules.map fun r => (only r).compile (d.restricted r.properties)) ++ c.remaining d := by
  unfold compile emitted
  rw [join_filter_map]
  congr 2
  exact List.map_congr_left fun r member => (compile_only (reads r member) d).symm

/-- The literal of a declaration. -/
theorem emitted_remaining (c : Compiler) (d : Declarations) : (c.remaining d).emitted =
    (unread c.rules d).map fun entry => Literal.declaration entry.1 entry.2 := by
  have written (entry : String × String) : (declaration entry.1 entry.2).emitted =
      [Literal.declaration entry.1 entry.2] := by
    simp [declaration, unmapped, fallback, Literal.declaration]
  rw [remaining_eq, emitted_join, List.flatMap_map]
  simp only [written]
  exact List.map_eq_flatMap.symm

theorem fallbacks_remaining (c : Compiler) (d : Declarations) : (c.remaining d).fallbacks =
    (unread c.rules d).map fun entry =>
      ⟨entry.1, entry.2, Literal.declaration entry.1 entry.2, .unmappableValue⟩ := by
  rw [remaining_eq, fallbacks_join, List.flatMap_map]
  exact List.map_eq_flatMap.symm

/-- Equal answers, and nothing left over, give equal outputs. -/
theorem compile_congr {c : Compiler} (reads : ∀ r ∈ c.rules, DependsOn r.properties r.emit)
    {d other : Declarations} (same : ∀ p, d.get? p = other.get? p)
    (none : unread c.rules d = []) (noneOther : unread c.rules other = []) :
    c.compile d = c.compile other := by
  rw [compile_eq reads, compile_eq reads, remaining_eq, remaining_eq, none, noneOther]
  congr 2
  refine List.map_congr_left fun r member => ?_
  rw [compile_only (reads r member), compile_only (reads r member),
    Rule.applies_congr fun p _ => same p, reads r member d other fun p _ => same p]

end Compiler

/-- A compiler whose rules compose: what it says is what they say one by one. -/
structure Composed (rules : List Rule) (c : Compiler) : Prop where
  inOrder : c.rules = rules
  tokens : ∀ d, (c.compile d).tokens =
    ((rules.flatMap fun r => ((Compiler.only r).compile (d.restricted r.properties)).tokens) ++
      (unread rules d).map fun entry => Literal.declaration entry.1 entry.2).eraseDups
  fallbacks : ∀ d, (c.compile d).fallbacks =
    (rules.flatMap fun r => ((Compiler.only r).compile (d.restricted r.properties)).fallbacks) ++
      (unread rules d).map fun entry =>
        ⟨entry.1, entry.2, Literal.declaration entry.1 entry.2, .unmappableValue⟩
  distinct : ∀ d, (c.compile d).tokens.Nodup
  /-- What a rule says does not depend on properties that it does not name. -/
  apart : ∀ r ∈ rules, DependsOn r.properties r.emit

/-- Rules that depend on their properties alone compose. -/
theorem Composed.of_dependsOn {c : Compiler} (reads : ∀ r ∈ c.rules, DependsOn r.properties r.emit) :
    Composed c.rules c where
  inOrder := rfl
  tokens := by
    intro d
    rw [Compiler.compile_eq reads]
    unfold Output.tokens
    rw [emitted_append, emitted_join, List.flatMap_map, Compiler.emitted_remaining,
      eraseDups_flatMap_append]
  fallbacks := by
    intro d
    rw [Compiler.compile_eq reads, fallbacks_append, fallbacks_join, List.flatMap_map,
      Compiler.fallbacks_remaining]
  distinct d := nodup_eraseDups _
  apart := reads

/-- No tracked property is left over by the built-in rules. -/
theorem unread_builtin {d : Declarations} (tracked : ∀ p ∈ d.keys, p ∈ Property.tracked) :
    unread builtinRules d = [] :=
  List.filter_eq_nil_iff.mpr fun entry member => by
    obtain ⟨r, known, read⟩ :=
      exists_rule_of_tracked entry.1 (tracked entry.1 (List.mem_map.mpr ⟨entry, member, rfl⟩))
    have any : builtinRules.any (·.properties.contains entry.1) = true :=
      List.any_eq_true.mpr ⟨r, known, by simpa using read⟩
    rw [any]
    decide

/-- Built-in rules and box rules compose in any order; the output of the built-in ones does
not depend on the order of tracked declarations either. -/
theorem registered_composed {rules : List Rule}
    (known : ∀ r ∈ rules, r ∈ builtinRules ∨ ∃ shorthand stem, r = boxRule shorthand stem)
    (distinct : (rules.map Rule.id).Nodup) :
    (Compiler.empty.registerAll rules).2 = Option.none ∧
    Composed rules (Compiler.empty.registerAll rules).1 ∧
    ∀ d other : Declarations, (∀ p ∈ d.keys, p ∈ Property.tracked) → d.entries.Perm other.entries →
      Compiler.builtin.compile d = Compiler.builtin.compile other := by
  obtain ⟨inOrder, complete⟩ := Compiler.registerAll_empty distinct
  refine ⟨complete, ?_, ?_⟩
  · have reads : ∀ r ∈ (Compiler.empty.registerAll rules).1.rules,
        DependsOn r.properties r.emit := by
      rw [inOrder]
      intro r member
      rcases known r member with built | ⟨shorthand, stem, rfl⟩
      · exact builtin_dependsOn built
      · exact boxRule_dependsOn shorthand stem
    have composed := Composed.of_dependsOn reads
    rwa [inOrder] at composed
  · intro d other tracked same
    have trackedOther : ∀ p ∈ other.keys, p ∈ Property.tracked := fun p member =>
      tracked p ((same.map Prod.fst).mem_iff.mpr member)
    refine Compiler.compile_congr ?_ (Assoc.get?_of_perm same) ?_ ?_
    · intro r member
      rw [Compiler.rules_builtin] at member
      exact builtin_dependsOn member
    · rw [Compiler.rules_builtin]
      exact unread_builtin tracked
    · rw [Compiler.rules_builtin]
      exact unread_builtin trackedOther

theorem registered_composed_boxes :
    (Compiler.empty.registerAll [boxRule "inset" "i", displayRule, boxRule "margin" "m"]).2 =
      Option.none ∧
    Composed [boxRule "inset" "i", displayRule, boxRule "margin" "m"]
      (Compiler.empty.registerAll [boxRule "inset" "i", displayRule, boxRule "margin" "m"]).1 := by
  have known : ∀ r ∈ [boxRule "inset" "i", displayRule, boxRule "margin" "m"],
      r ∈ builtinRules ∨ ∃ shorthand stem, r = boxRule shorthand stem := by
    intro r member
    simp only [List.mem_cons, List.not_mem_nil, or_false] at member
    rcases member with rfl | rfl | rfl
    · exact .inr ⟨"inset", "i", rfl⟩
    · exact .inl (by simp [builtinRules])
    · exact .inr ⟨"margin", "m", rfl⟩
  obtain ⟨complete, composed, -⟩ := registered_composed known (by decide +kernel)
  exact ⟨complete, composed⟩

end Utility

end Clipping

import Clipping.Style.Property
import Clipping.Utility.Compiler
import Mathlib.Data.List.Nodup
import Mathlib.Data.List.Pairwise

/-! Registering rules. Rules of a list are registered in their order up to the first whose id
was there before; all of them are where there is none. -/
namespace Clipping.Utility

namespace Compiler

variable {c : Compiler}

theorem register_eq_none_iff {r : Rule} : c.register r = none ↔ r.id ∈ c.ids := by
  simp [register]

theorem rules_register {r : Rule} (fresh : r.id ∉ c.ids) :
    ∃ c', c.register r = some c' ∧ c'.rules = c.rules ++ [r] := by
  simp [register, fresh]

theorem mem_ids_of_rules {next : Compiler} {r : Rule} (rules : next.rules = c.rules ++ [r])
    {id : String} :
    id ∈ next.ids ↔ id ∈ c.ids ∨ id = r.id := by
  simp [ids, rules]

theorem rule?_eq_some_iff {id : String} {r : Rule} :
    c.rule? id = some r ↔ r ∈ c.rules ∧ r.id = id := by
  constructor
  · intro found
    exact ⟨List.mem_of_find?_eq_some found, by simpa using List.find?_some found⟩
  · rintro ⟨member, rfl⟩
    obtain ⟨other, found⟩ : ∃ other, c.rule? r.id = some other :=
      Option.isSome_iff_exists.mp (List.find?_isSome.mpr ⟨r, member, BEq.rfl⟩)
    obtain rfl : other = r := List.inj_on_of_nodup_map c.distinct (List.mem_of_find?_eq_some found) member
      (by simpa using List.find?_some found)
    exact found

/-- The first rule whose id was there ends the registration; the rules before it stay. -/
theorem registerAll_cases (c : Compiler) {rules : List Rule} (distinct : (rules.map Rule.id).Nodup) :
    (∃ before r after, rules = before ++ r :: after ∧ (∀ b ∈ before, b.id ∉ c.ids) ∧ r.id ∈ c.ids ∧
      (c.registerAll rules).2 = some r.id ∧ (c.registerAll rules).1.rules = c.rules ++ before) ∨
    ((∀ b ∈ rules, b.id ∉ c.ids) ∧
      (c.registerAll rules).2 = none ∧ (c.registerAll rules).1.rules = c.rules ++ rules) := by
  induction rules generalizing c with
  | nil => exact .inr ⟨nofun, rfl, (List.append_nil _).symm⟩
  | cons r rest ih =>
    obtain ⟨apart, distinct⟩ := List.nodup_cons.mp distinct
    by_cases present : r.id ∈ c.ids
    · refine .inl ⟨[], r, rest, rfl, nofun, present, ?_⟩
      simp [registerAll, register_eq_none_iff.mpr present]
    · obtain ⟨next, registered, extended⟩ := rules_register present
      -- The ids after `r` differ from its own, so the new compiler has those that the old one has.
      have same : ∀ b ∈ rest, b.id ∈ next.ids ↔ b.id ∈ c.ids := by
        intro b member
        rw [mem_ids_of_rules extended, or_iff_left]
        exact fun equal => apart (equal ▸ List.mem_map_of_mem member)
      simp only [registerAll, registered]
      rcases ih next distinct with
        ⟨before, s, after, rfl, fresh, found, stopped, kept⟩ | ⟨fresh, complete, kept⟩
      · refine .inl ⟨r :: before, s, after, rfl, ?_, (same s (by simp)).mp found, stopped, ?_⟩
        · refine List.forall_mem_cons.mpr ⟨present, fun b member => ?_⟩
          exact mt (same b (by simp [member])).mpr (fresh b member)
        · simp [kept, extended]
      · refine .inr ⟨?_, complete, ?_⟩
        · exact List.forall_mem_cons.mpr ⟨present, fun b member => mt (same b member).mpr (fresh b member)⟩
        · simp [kept, extended]

theorem registerAll_empty {rules : List Rule} (distinct : (rules.map Rule.id).Nodup) :
    (empty.registerAll rules).1.rules = rules ∧ (empty.registerAll rules).2 = none := by
  rcases registerAll_cases empty distinct with ⟨-, r, -, -, -, present, -⟩ | ⟨-, complete, rules⟩
  · cases present
  · exact ⟨rules, complete⟩

theorem nodup_ids_builtin : (builtinRules.map Rule.id).Nodup := by decide +kernel

@[simp] theorem rules_builtin : builtin.rules = builtinRules := (registerAll_empty nodup_ids_builtin).1

end Compiler

/-- The built-in rules read the tracked properties, each of them once. -/
theorem properties_builtin_perm : (builtinRules.flatMap Rule.properties).Perm Property.tracked := by
  decide +kernel

theorem nodup_properties_builtin : (builtinRules.flatMap Rule.properties).Nodup := by decide +kernel

/-- Some built-in rule reads each tracked property. -/
theorem exists_rule_of_tracked (p : String) (tracked : p ∈ Property.tracked) :
    ∃ r ∈ builtinRules, p ∈ r.properties :=
  List.mem_flatMap.mp (properties_builtin_perm.mem_iff.mpr tracked)

theorem tracked_of_reads {r : Rule} (known : r ∈ builtinRules) {p : String} (reads : p ∈ r.properties) :
    p ∈ Property.tracked :=
  properties_builtin_perm.mem_iff.mp (List.mem_flatMap.mpr ⟨r, known, reads⟩)

/-- No two built-in rules read the same property. -/
theorem eq_of_reads {r s : Rule} (known : r ∈ builtinRules) (other : s ∈ builtinRules) {p : String}
    (reads : p ∈ r.properties) (readsOther : p ∈ s.properties) : r = s := by
  have apart := (List.nodup_flatMap.mp nodup_properties_builtin).2
  have symm : Std.Symm (Function.onFun List.Disjoint Rule.properties) := ⟨fun _ _ none => List.disjoint_symm none⟩
  by_contra different
  exact apart.forall known other different reads readsOther

end Clipping.Utility

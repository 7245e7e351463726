import Clipping.Proofs.Utility.Noting

/-! Compilers in use, beside a ledger of their registrations. Rules come and go in any order, and
some registrations fail or end halfway; the rules stay listed by the date of their latest entry. -/
namespace Clipping.Utility

/-- What may be asked of a compiler as it is used. -/
inductive Call where
  | register (r : Rule)
  | unregister (id : String)
  | registerBuiltin

def Call.rules : Call → List Rule
  | register r => [r]
  | unregister _ => []
  | registerBuiltin => builtinRules

namespace Compiler

def call (c : Compiler) : Call → Compiler × Option String
  | .register r =>
    match c.register r with
    | some next => (next, none)
    | none => (c, some r.id)
  | .unregister id => (c.unregister id, none)
  | .registerBuiltin => c.registerAll builtinRules

/-- The rules of a list that are registered, up to the first that is refused. -/
def admitted (c : Compiler) : List Rule → List Rule
  | [] => []
  | r :: rest =>
    match c.register r with
    | some next => r :: next.admitted rest
    | none => []

end Compiler

/-- A compiler in use. The history has each successful registration, in the order of time. -/
structure Ledger where
  compiler : Compiler
  history : List Rule

namespace Ledger

def start : Ledger := ⟨.empty, []⟩

def next (s : Ledger) (call : Call) : Ledger :=
  ⟨(s.compiler.call call).1, s.history ++ s.compiler.admitted call.rules⟩

def after (calls : List Call) : Ledger := calls.foldl next start

end Ledger

/-- The rule was registered at that place of the history, and no rule with its id later. -/
def IsLatest (history : List Rule) (i : Nat) (r : Rule) : Prop :=
  history[i]? = some r ∧ ∀ j, i < j → ∀ s, history[j]? = some s → s.id ≠ r.id

/-- The rules are listed in the order of their latest registrations. -/
structure InOrder (history rules : List Rule) : Prop where
  dated : ∀ r ∈ rules, ∃ i, IsLatest history i r
  ordered : rules.Pairwise fun a b => ∀ i j, IsLatest history i a → IsLatest history j b → i < j

section

variable {history rules : List Rule} {r : Rule}

theorem getElem?_concat_eq_some_iff {i : Nat} {a : Rule} :
    (history ++ [r])[i]? = some a ↔ history[i]? = some a ∨ (i = history.length ∧ a = r) := by
  rcases Nat.lt_trichotomy i history.length with before | rfl | beyond
  · simp [List.getElem?_append_left before, Nat.ne_of_lt before]
  · simp [eq_comm]
  · have outside : (history ++ [r]).length ≤ i := by
      rw [List.length_append]
      exact beyond
    simp [List.getElem?_eq_none outside, List.getElem?_eq_none (Nat.le_of_lt beyond), Nat.ne_of_gt beyond]

theorem IsLatest.lt_length {i : Nat} (latest : IsLatest history i r) : i < history.length :=
  (List.getElem?_eq_some_iff.mp latest.1).1

theorem isLatest_concat {i : Nat} : IsLatest (history ++ [r]) i r ↔ i = history.length := by
  constructor
  · rintro ⟨found, last⟩
    rcases getElem?_concat_eq_some_iff.mp found with earlier | ⟨rfl, -⟩
    · have bound := (List.getElem?_eq_some_iff.mp earlier).1
      exact absurd rfl (last history.length bound r List.getElem?_concat_length)
    · rfl
  · rintro rfl
    refine ⟨List.getElem?_concat_length, fun j later s found => ?_⟩
    have bound := (List.getElem?_eq_some_iff.mp found).1
    simp only [List.length_append, List.length_singleton] at bound
    omega

theorem isLatest_concat_of_ne {a : Rule} (apart : a.id ≠ r.id) {i : Nat} :
    IsLatest (history ++ [r]) i a ↔ IsLatest history i a := by
  constructor
  · rintro ⟨found, last⟩
    rcases getElem?_concat_eq_some_iff.mp found with found | ⟨-, rfl⟩
    · exact ⟨found, fun j later s other => last j later s (getElem?_concat_eq_some_iff.mpr (.inl other))⟩
    · exact absurd rfl apart
  · rintro ⟨found, last⟩
    refine ⟨getElem?_concat_eq_some_iff.mpr (.inl found), fun j later s other => ?_⟩
    rcases getElem?_concat_eq_some_iff.mp other with other | ⟨-, rfl⟩
    · exact last j later s other
    · exact Ne.symm apart

namespace InOrder

theorem nil : InOrder history [] := ⟨nofun, .nil⟩

theorem sublist {kept : List Rule} (listed : InOrder history rules) (part : kept.Sublist rules) :
    InOrder history kept :=
  ⟨fun r member => listed.dated r (part.subset member), listed.ordered.sublist part⟩

/-- A new rule is dated after all that are there. -/
theorem concat (listed : InOrder history rules) (fresh : ∀ a ∈ rules, a.id ≠ r.id) :
    InOrder (history ++ [r]) (rules ++ [r]) where
  dated := by
    intro a member
    rcases List.mem_append.mp member with old | new
    · obtain ⟨i, latest⟩ := listed.dated a old
      exact ⟨i, (isLatest_concat_of_ne (fresh a old)).mpr latest⟩
    · obtain rfl := List.mem_singleton.mp new
      exact ⟨history.length, isLatest_concat.mpr rfl⟩
  ordered := by
    refine List.pairwise_append.mpr ⟨?_, List.pairwise_singleton _ _, ?_⟩
    · refine listed.ordered.imp_of_mem fun {a b} first second earlier i j dated datedNext => ?_
      exact earlier i j ((isLatest_concat_of_ne (fresh a first)).mp dated)
        ((isLatest_concat_of_ne (fresh b second)).mp datedNext)
    · intro a old b new i j dated datedNext
      obtain rfl := List.mem_singleton.mp new
      rw [isLatest_concat.mp datedNext]
      exact ((isLatest_concat_of_ne (fresh a old)).mp dated).lt_length

variable {c : Compiler}

theorem register (listed : InOrder history c.rules) {next : Compiler} (done : c.register r = some next) :
    InOrder (history ++ [r]) next.rules := by
  have fresh : r.id ∉ c.ids := fun present => by
    rw [Compiler.register_eq_none_iff.mpr present] at done
    cases done
  obtain ⟨same, registered, extended⟩ := Compiler.rules_register fresh
  obtain rfl := Option.some.inj (done.symm.trans registered)
  rw [extended]
  exact listed.concat fun a member equal => fresh (equal ▸ List.mem_map_of_mem member)

theorem registerAll (listed : InOrder history c.rules) (new : List Rule) :
    InOrder (history ++ c.admitted new) (c.registerAll new).1.rules := by
  induction new generalizing c history with
  | nil =>
    simp only [Compiler.admitted, List.append_nil]
    exact listed
  | cons r rest ih =>
    simp only [Compiler.admitted, Compiler.registerAll]
    cases done : c.register r with
    | none =>
      simp only [List.append_nil]
      exact listed
    | some next =>
      rw [List.append_cons]
      exact ih (listed.register done)

end InOrder

end

namespace Ledger

variable {s : Ledger}

/-- One call keeps the order. -/
theorem inOrder_next (listed : InOrder s.history s.compiler.rules) (call : Call) :
    InOrder (s.next call).history (s.next call).compiler.rules := by
  cases call with
  | register r =>
    have single : s.compiler.call (.register r) = s.compiler.registerAll [r] := by
      cases done : s.compiler.register r with
      | none => simp only [Compiler.call, Compiler.registerAll, done]
      | some next => simp only [Compiler.call, Compiler.registerAll, done]
    simp only [next, Call.rules, single]
    exact listed.registerAll [r]
  | unregister id =>
    simp only [next, Call.rules, Compiler.call, Compiler.admitted, List.append_nil]
    exact listed.sublist List.filter_sublist
  | registerBuiltin => exact listed.registerAll builtinRules

theorem inOrder_after (calls : List Call) :
    InOrder (after calls).history (after calls).compiler.rules := by
  -- By induction on the calls, from any ledger on that is in order.
  suffices run : ∀ s : Ledger, InOrder s.history s.compiler.rules →
      InOrder (calls.foldl next s).history (calls.foldl next s).compiler.rules from run start .nil
  induction calls with
  | nil => exact fun s listed => listed
  | cons call rest ih => exact fun s listed => ih (s.next call) (inOrder_next listed call)

end Ledger

/-! Declarations that no rule reads. -/

section

variable {c : Compiler} {d : Declarations} {p v : String}

theorem mem_unread (entry : (p, v) ∈ d.entries) (free : ∀ r ∈ c.rules, p ∉ r.properties) :
    (p, v) ∈ unread c.rules d := by
  refine List.mem_filter.mpr ⟨entry, ?_⟩
  simpa using free

/-- The compiler itself adds one note about such a property. -/
theorem filter_fallbacks_remaining (entry : (p, v) ∈ d.entries)
    (free : ∀ r ∈ c.rules, p ∉ r.properties) :
    (c.remaining d).fallbacks.filter (·.property == p) =
      [⟨p, v, Literal.declaration p v, .unmappableValue⟩] := by
  have single : (unread c.rules d).filter (fun entry => entry.1 == p) = [(p, v)] := by
    unfold unread
    rw [List.filter_comm, Assoc.filter_name_of_mem entry]
    exact List.filter_eq_self.mpr fun _ member => by
      obtain rfl := List.mem_singleton.mp member
      exact (List.mem_filter.mp (mem_unread entry free)).2
  rw [Compiler.fallbacks_remaining, List.filter_map]
  exact congrArg _ single

/-- Rules that note their own properties have nothing to say of the others. -/
theorem filter_fallbacks_emitted (own : ∀ r ∈ c.rules, r.NotesOwn)
    (free : ∀ r ∈ c.rules, p ∉ r.properties) :
    (c.emitted d).fallbacks.filter (·.property == p) = [] := by
  refine List.filter_eq_nil_iff.mpr fun f member same => ?_
  rw [Compiler.emitted, Output.fallbacks_join] at member
  obtain ⟨o, listed, noted⟩ := List.mem_flatMap.mp member
  obtain ⟨r, applied, rfl⟩ := List.mem_map.mp listed
  have registered := (List.mem_filter.mp applied).1
  exact free r registered (eq_of_beq same ▸ own r registered d f noted)

end

/-- What a compiler does with a declaration of a property that none of its rules reads. -/
structure KeepsUnread (c : Compiler) (d : Declarations) (p v : String) : Prop where
  token : Literal.declaration p v ∈ (c.compile d).tokens
  /-- One note, after whatever the rules themselves may note about the property. -/
  note : (c.compile d).fallbacks.filter (·.property == p) =
    (c.emitted d).fallbacks.filter (·.property == p) ++
      [⟨p, v, Literal.declaration p v, .unmappableValue⟩]
  only : (∀ r ∈ c.rules, r.NotesOwn) → (c.compile d).fallbacks.filter (·.property == p) =
    [⟨p, v, Literal.declaration p v, .unmappableValue⟩]

theorem keepsUnread {c : Compiler} {d : Declarations} {p v : String} (entry : (p, v) ∈ d.entries)
    (free : ∀ r ∈ c.rules, p ∉ r.properties) : KeepsUnread c d p v := by
  have note : (c.compile d).fallbacks.filter (·.property == p) =
      (c.emitted d).fallbacks.filter (·.property == p) ++
        [⟨p, v, Literal.declaration p v, .unmappableValue⟩] := by
    rw [Compiler.compile, Output.fallbacks_append, List.filter_append, filter_fallbacks_remaining entry free]
  refine ⟨?_, note, fun own => ?_⟩
  · rw [Output.tokens, List.mem_eraseDups, Compiler.compile, Output.emitted_append,
      Compiler.emitted_remaining]
    exact List.mem_append_right _ (List.mem_map.mpr ⟨_, mem_unread entry free, rfl⟩)
  · rw [note, filter_fallbacks_emitted own free, List.nil_append]

structure Registry (s : Ledger) : Prop where
  distinct : s.compiler.ids.Nodup
  stored : ∀ id r, s.compiler.rule? id = some r ↔ r ∈ s.compiler.rules ∧ r.id = id
  listed : InOrder s.history s.compiler.rules
  refused : ∀ r, r.id ∈ s.compiler.ids → s.compiler.call (.register r) = (s.compiler, some r.id)
  accepted : ∀ r, r.id ∉ s.compiler.ids →
    ∃ next, s.compiler.call (.register r) = (next, none) ∧ next.rules = s.compiler.rules ++ [r]
  /-- The built-in rules come up to the first whose id was there, at which the call fails. -/
  builtin :
    (∃ before r after, builtinRules = before ++ r :: after ∧
      (∀ b ∈ before, b.id ∉ s.compiler.ids) ∧ r.id ∈ s.compiler.ids ∧
      (s.compiler.call .registerBuiltin).2 = some r.id ∧
      (s.compiler.call .registerBuiltin).1.rules = s.compiler.rules ++ before) ∨
    ((∀ b ∈ builtinRules, b.id ∉ s.compiler.ids) ∧
      (s.compiler.call .registerBuiltin).2 = none ∧
      (s.compiler.call .registerBuiltin).1.rules = s.compiler.rules ++ builtinRules)
  unread : ∀ d p v, (p, v) ∈ d.entries → (∀ r ∈ s.compiler.rules, p ∉ r.properties) →
    KeepsUnread s.compiler d p v

/-- Any use keeps the registry in order. The built-in rules and those of boxes note no
property that they do not read. -/
theorem registry_after (calls : List Call) : Registry (Ledger.after calls) ∧
    ∀ r, (r ∈ builtinRules ∨ ∃ shorthand stem, r = boxRule shorthand stem) → r.NotesOwn := by
  refine ⟨?_, ?_⟩
  · exact {
      distinct := (Ledger.after calls).compiler.distinct
      stored := fun _ _ => Compiler.rule?_eq_some_iff
      listed := Ledger.inOrder_after calls
      refused := fun r present => by simp [Compiler.call, Compiler.register_eq_none_iff.mpr present]
      accepted := fun r fresh => by
        obtain ⟨next, registered, extended⟩ := Compiler.rules_register fresh
        exact ⟨next, by simp [Compiler.call, registered], extended⟩
      builtin := Compiler.registerAll_cases _ Compiler.nodup_ids_builtin
      unread := fun _ _ _ => keepsUnread }
  · rintro r (known | ⟨shorthand, stem, rfl⟩)
    · exact builtin_notesOwn known
    · exact boxRule_notesOwn shorthand stem

/-- A box that takes the id of padding ends the built-in rules halfway. Display leaves and
comes back last. -/
def collision : List Call := [
  .register (boxRule "Padding" "q"), .registerBuiltin, .unregister "LAYOUT.DISPLAY",
  .register (boxRule "padding" "p"), .register displayRule]

theorem registry_after_collision :
    (Ledger.after collision).compiler.ids = [
      "BOX.PADDING", "LAYOUT.POSITION", "LAYOUT.OVERFLOW", "LAYOUT.VISIBILITY", "FLEX.CONTAINER_ITEM",
      "GRID.TEMPLATE_PLACEMENT", "FLEX.GAP", "COLOR.FILL_TEXT", "COLOR.BACKGROUND", "LAYOUT.DISPLAY"] ∧
    Registry (Ledger.after collision) ∧
    (Ledger.after collision).compiler.call (.register flexRule) =
      ((Ledger.after collision).compiler, some "FLEX.CONTAINER_ITEM") ∧
    KeepsUnread (Ledger.after collision).compiler (Assoc.empty.set "width" "10px") "width" "10px" ∧
    displayRule.NotesOwn := by
  obtain ⟨registry, own⟩ := registry_after collision
  refine ⟨by decide +kernel, registry, ?_, ?_, ?_⟩
  · exact registry.refused flexRule (by decide +kernel)
  · exact registry.unread _ "width" "10px" (by decide) (by decide +kernel)
  · exact own displayRule (.inl (by simp [builtinRules]))

end Clipping.Utility

import Clipping.Log.Logger

/-! What a debug context puts back. Levels of handlers are saved and put back by place, so a
body may do as it likes behind the handlers that it found: change any level, attach handlers,
fail, or open further contexts. A body that detaches one of those moves the others to places
that are not theirs. -/
namespace Clipping.Log

inductive Action where
  | setLevel (level : Level)
  | setHandlerLevel (key : Nat) (level : Level)
  | attach (h : Handler)
  | detach (key : Nat)
  deriving DecidableEq, Repr

/-- A body, as its run goes: it finishes or fails, and before that it acts on the logger or opens
contexts of its own. A failure in such a context ends the body unless it is caught there. -/
inductive Body where
  | finish
  | fail
  | act (action : Action) (rest : Body)
  | context (catches : Bool) (inner rest : Body)
  deriving DecidableEq, Repr

def Handler.identity (h : Handler) : Nat × Target := (h.key, h.target)

namespace Logger

def identities (l : Logger) : List (Nat × Target) := l.handlers.map Handler.identity

/-- The logger at the start of a context: everything is logged. -/
def opened (l : Logger) : Logger :=
  { l with level := .debug, handlers := l.handlers.map (·.withLevel .debug) }

/-- A handler that is attached already stays where it is. -/
def perform (l : Logger) : Action → Logger
  | .setLevel level => { l with level := level }
  | .setHandlerLevel key level =>
    { l with handlers := l.handlers.map fun h => if h.key = key then h.withLevel level else h }
  | .attach h => if l.handlers.any (·.key == h.key) then l else { l with handlers := l.handlers ++ [h] }
  | .detach key => { l with handlers := l.handlers.filter (·.key != key) }

end Logger

namespace Body

def run : Body → Logger → Logger × Bool
  | finish, l => (l, false)
  | fail, l => (l, true)
  | act action rest, l => rest.run (l.perform action)
  | context catches inner rest, l =>
    let closed := l.debugContext fun inside => (inner.run inside).1
    if (inner.run l.opened).2 && !catches then (closed, true) else rest.run closed

/-- The body detaches none of the handlers with these keys, nor do the contexts in it. -/
def Spares (keys : List Nat) : Body → Prop
  | finish => True
  | fail => True
  | act (.detach key) rest => key ∉ keys ∧ rest.Spares keys
  | act _ rest => rest.Spares keys
  | context _ inner rest => inner.Spares keys ∧ rest.Spares keys

end Body

namespace Logger

@[simp] theorem identities_opened (l : Logger) : l.opened.identities = l.identities := by
  simp [identities, opened, Handler.identity, Handler.withLevel, Function.comp_def]

theorem map_identity_restored (handlers : List Handler) (levels : List Level) :
    (restored handlers levels).map Handler.identity = handlers.map Handler.identity := by
  induction handlers generalizing levels with
  | nil => cases levels <;> rfl
  | cons h rest ih =>
    cases levels with
    | nil => rfl
    | cons level levels => exact congrArg (h.identity :: ·) (ih levels)

/-- A context changes no handler but its level, whatever else the body did. -/
theorem identities_debugContext (body : Logger → Logger) (l : Logger) :
    (l.debugContext body).identities = (body l.opened).identities :=
  map_identity_restored _ _

theorem getElem?_restored (handlers : List Handler) (levels : List Level) (i : Nat) :
    (restored handlers levels)[i]? =
      (handlers[i]?).map fun h => ((levels[i]?).map h.withLevel).getD h := by
  induction handlers generalizing levels i with
  | nil => cases levels <;> simp [restored]
  | cons h rest ih =>
    cases levels with
    | nil => simp [restored]
    | cons level levels =>
      cases i with
      | zero => rfl
      | succ i => simpa [restored] using ih levels i

/-- The level of a handler after a context is that which stood at its place before. -/
theorem getElem?_debugContext (body : Logger → Logger) (l : Logger) (i : Nat) :
    (l.debugContext body).handlers[i]? = ((body l.opened).handlers[i]?).map fun h =>
      ((l.handlers[i]?).map fun before => h.withLevel before.level).getD h := by
  simp only [debugContext, getElem?_restored, List.getElem?_map, Option.map_map]
  rfl

/-- Handlers that are still in front are all put back. -/
theorem prefix_restored {before handlers : List Handler}
    (front : before.map Handler.identity <+: handlers.map Handler.identity) :
    before <+: restored handlers (before.map Handler.level) := by
  induction before generalizing handlers with
  | nil => exact List.nil_prefix
  | cons b before ih =>
    cases handlers with
    | nil => simp at front
    | cons h handlers =>
      simp only [List.map_cons, List.cons_prefix_cons] at front
      obtain ⟨same, front⟩ := front
      have own : h.withLevel b.level = b := by
        obtain ⟨key, target⟩ := Prod.mk.inj same
        cases b
        cases h
        simp_all [Handler.withLevel]
      rw [List.map_cons, restored, own]
      exact List.prefix_cons_inj b |>.mpr (ih front)

/-- One action of a body that spares the handlers in front leaves them in front. -/
theorem perform_front {front : List (Nat × Target)} {l : Logger} (action : Action)
    (spared : ∀ key, action = .detach key → key ∉ front.map Prod.fst)
    (before : front <+: l.identities) : front <+: (l.perform action).identities := by
  cases action with
  | setLevel level => exact before
  | setHandlerLevel key level =>
    have same (h : Handler) :
        (if h.key = key then h.withLevel level else h).identity = h.identity := by
      split <;> rfl
    simpa [perform, identities, Function.comp_def, same] using before
  | attach h =>
    by_cases attached : l.handlers.any (·.key == h.key) = true
    · simpa only [perform, attached, if_true] using before
    · have grown : (l.perform (.attach h)).identities = l.identities ++ [h.identity] := by
        simp [perform, attached, identities]
      rw [grown]
      exact before.trans (List.prefix_append _ _)
  | detach key =>
    obtain ⟨behind, parts⟩ := before
    have stays : front.filter (fun entry => entry.1 != key) = front := by
      apply List.filter_eq_self.mpr
      intro entry member
      simp only [bne_iff_ne]
      rintro rfl
      exact spared _ rfl (List.mem_map_of_mem member)
    refine ⟨behind.filter fun entry => entry.1 != key, ?_⟩
    have kept : (l.perform (.detach key)).identities =
        l.identities.filter fun entry => entry.1 != key := by
      simp only [perform, identities, List.filter_map]
      rfl
    rw [kept, ← parts, List.filter_append, stays]

end Logger

namespace Body

/-- What one action keeps, a whole body keeps: contexts in it do not move handlers. -/
theorem run_front {front : List (Nat × Target)} (body : Body) {l : Logger}
    (spared : body.Spares (front.map Prod.fst)) (before : front <+: l.identities) :
    front <+: (body.run l).1.identities := by
  induction body generalizing l with
  | finish => exact before
  | fail => exact before
  | act action rest ih =>
    have parts : (∀ key, action = .detach key → key ∉ front.map Prod.fst) ∧
        rest.Spares (front.map Prod.fst) := by
      cases action with
      | detach key => exact ⟨fun _ same => Action.detach.inj same ▸ spared.1, spared.2⟩
      | _ => exact ⟨fun _ same => (nomatch same), spared⟩
    exact ih parts.2 (Logger.perform_front action parts.1 before)
  | context catches inner rest ih₁ ih₂ =>
    have opened : front <+: l.opened.identities := by rwa [Logger.identities_opened]
    have closed : front <+: (l.debugContext fun inside => (inner.run inside).1).identities := by
      rw [Logger.identities_debugContext]
      exact ih₁ spared.1 opened
    simp only [run]
    split
    · exact closed
    · exact ih₂ spared.2 closed

end Body

namespace Logger

def inContext (body : Body) (l : Logger) : Logger := l.debugContext fun inside => (body.run inside).1

/-- A body that detaches none of the handlers that it found leaves them all as they were, and in
front of those that it attached, however it ends and whatever contexts it opens. -/
theorem inContext_restores (body : Body) (l : Logger)
    (spared : body.Spares (l.handlers.map Handler.key)) :
    (l.inContext body).level = l.level ∧ l.handlers <+: (l.inContext body).handlers := by
  refine ⟨rfl, ?_⟩
  apply prefix_restored
  have keys : l.identities.map Prod.fst = l.handlers.map Handler.key := by
    simp [identities, Handler.identity, Function.comp_def]
  rw [← keys] at spared
  have before : l.identities <+: l.opened.identities :=
    ⟨[], by rw [List.append_nil, identities_opened]⟩
  exact body.run_front spared before

/-- Without the first handler each of the others stands one place further in front, and is given
the level of the one that was there. -/
theorem inContext_displaces {l : Logger} {first : Handler} {others : List Handler}
    (handlers : l.handlers = first :: others) (own : first.key ∉ others.map Handler.key) :
    (l.inContext (.act (.detach first.key) .finish)).handlers =
      List.zipWith (fun h before => h.withLevel before.level) others (first :: others) := by
  have left : (l.opened.perform (.detach first.key)).handlers = others.map (·.withLevel .debug) := by
    have kept : others.filter (fun h => h.key != first.key) = others := by
      apply List.filter_eq_self.mpr
      intro h member
      simp only [bne_iff_ne]
      intro same
      exact own (List.mem_map.mpr ⟨h, member, same⟩)
    simp [perform, opened, handlers, Handler.withLevel, List.filter_map, Function.comp_def, kept]
  apply List.ext_getElem?
  intro i
  rw [inContext, getElem?_debugContext]
  simp only [Body.run, left, handlers, List.getElem?_map, List.getElem?_zipWith, Option.map_map]
  by_cases bound : i < others.length
  · have before : i < (first :: others).length := Nat.lt_succ_of_lt bound
    simp only [List.getElem?_eq_getElem bound, List.getElem?_eq_getElem before]
    rfl
  · simp [List.getElem?_eq_none (Nat.le_of_not_lt bound)]

/-- Once the console is gone, a file that takes everything takes warnings only. -/
example : (inContext (.act (.detach 0) .finish) ⟨.debug, false,
    [⟨0, .console, .warning⟩, ⟨1, .file "run.log" .text 10485760 3, .debug⟩], 2⟩).handlers =
      [⟨1, .file "run.log" .text 10485760 3, .warning⟩] := rfl

end Logger

end Clipping.Log

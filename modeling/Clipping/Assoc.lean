/-! Ordered maps from names: one entry a name, in the order in which the names came. A
name that is set again keeps its place. -/
namespace Clipping

/-- Replaces the value of a name where it stands, or adds the name last. -/
def putEntry {α : Type} (name : String) (v : α) : List (String × α) → List (String × α)
  | [] => [(name, v)]
  | (other, w) :: rest =>
    if other = name then (name, v) :: rest else (other, w) :: putEntry name v rest

theorem keys_putEntry {α : Type} (name : String) (v : α) (entries : List (String × α)) :
    (putEntry name v entries).map Prod.fst =
      if name ∈ entries.map Prod.fst then entries.map Prod.fst
      else entries.map Prod.fst ++ [name] := by
  induction entries with
  | nil => rfl
  | cons entry rest ih =>
    obtain ⟨other, w⟩ := entry
    by_cases h : other = name
    · simp [putEntry, h]
    · have h2 := Ne.symm h
      simp only [putEntry, h, if_false, List.map_cons, ih, List.mem_cons, h2, false_or]
      split <;> simp

theorem nodup_putEntry {α : Type} (name : String) (v : α) {entries : List (String × α)}
    (distinct : (entries.map Prod.fst).Nodup) : ((putEntry name v entries).map Prod.fst).Nodup := by
  rw [keys_putEntry]
  split
  · exact distinct
  · next h => exact List.nodup_append.mpr ⟨distinct, by simp, by simp; grind⟩

structure Assoc (α : Type) where
  entries : List (String × α)
  distinct : (entries.map Prod.fst).Nodup

namespace Assoc

variable {α β : Type}

theorem ext {a b : Assoc α} (h : a.entries = b.entries) : a = b := by
  cases a; cases b; simpa using h

instance [DecidableEq α] : DecidableEq (Assoc α) := fun a b =>
  if h : a.entries = b.entries then isTrue (ext h) else isFalse fun e => h (congrArg entries e)

def empty : Assoc α := ⟨[], List.nodup_nil⟩

instance : Inhabited (Assoc α) := ⟨empty⟩

def keys (m : Assoc α) : List String := m.entries.map Prod.fst

def get? (m : Assoc α) (name : String) : Option α := m.entries.lookup name

def contains (m : Assoc α) (name : String) : Bool := (m.get? name).isSome

def isEmpty (m : Assoc α) : Bool := m.entries.isEmpty

def set (m : Assoc α) (name : String) (v : α) : Assoc α :=
  ⟨putEntry name v m.entries, nodup_putEntry name v m.distinct⟩

def filter (m : Assoc α) (keep : String → α → Bool) : Assoc α :=
  ⟨m.entries.filter fun entry => keep entry.1 entry.2, m.distinct.sublist (List.filter_sublist.map _)⟩

def erase (m : Assoc α) (name : String) : Assoc α := m.filter fun other _ => other != name

/-- Of entries with one name the first gives the place and the last the value. -/
def ofList (entries : List (String × α)) : Assoc α :=
  entries.foldl (fun m entry => m.set entry.1 entry.2) empty

def map (f : String → α → β) (m : Assoc α) : Assoc β :=
  ⟨m.entries.map fun entry => (entry.1, f entry.1 entry.2), by
    simpa [List.map_map, Function.comp_def] using m.distinct⟩

/-- The same entries in another order. -/
def arranged (m : Assoc α) (entries : List (String × α)) (same : entries.Perm m.entries) : Assoc α :=
  ⟨entries, (same.map Prod.fst).nodup_iff.mpr m.distinct⟩

@[simp] theorem get?_empty (name : String) : (empty : Assoc α).get? name = none := rfl

@[simp] theorem entries_empty : (empty : Assoc α).entries = [] := rfl

@[simp] theorem get?_set (m : Assoc α) (name other : String) (v : α) :
    (m.set name v).get? other = if other = name then some v else m.get? other := by
  show List.lookup other (putEntry name v m.entries) = _
  unfold get?
  generalize m.entries = entries
  induction entries with
  | nil =>
    by_cases h : other = name
    · simp [putEntry, h]
    · simp [putEntry, List.lookup_cons, h, beq_false_of_ne h]
  | cons entry rest ih =>
    obtain ⟨k, w⟩ := entry
    by_cases hk : k = name
    · by_cases h : other = name
      · simp [putEntry, hk, h]
      · simp [putEntry, hk, h, List.lookup_cons, beq_false_of_ne h]
    · by_cases h : other = k
      · subst h; simp [putEntry, hk]
      · simp [putEntry, hk, List.lookup_cons, beq_false_of_ne h, ih]

theorem keys_set (m : Assoc α) (name : String) (v : α) :
    (m.set name v).keys = if name ∈ m.keys then m.keys else m.keys ++ [name] :=
  keys_putEntry name v m.entries

theorem mem_keys_iff (m : Assoc α) (name : String) : name ∈ m.keys ↔ (m.get? name).isSome := by
  unfold keys get?
  generalize m.entries = entries
  induction entries with
  | nil => simp
  | cons entry rest ih =>
    by_cases h : name = entry.1
    · simp [h]
    · simp [h, ih]

end Assoc

end Clipping

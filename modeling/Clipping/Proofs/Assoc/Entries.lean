import Clipping.Assoc
import Clipping.Proofs.List.Distinct
import Mathlib.Data.List.Nodup

/-! Ordered maps by their entries. Names are distinct, so an answer is an entry, and what
keeps the entries keeps the answers. -/
namespace Clipping

variable {κ α : Type}

theorem lookup_eq_some_iff [BEq κ] [LawfulBEq κ] {entries : List (κ × α)}
    (distinct : (entries.map Prod.fst).Nodup) {name : κ} {v : α} :
    entries.lookup name = some v ↔ (name, v) ∈ entries := by
  induction entries with
  | nil => simp
  | cons entry rest ih =>
    obtain ⟨other, w⟩ := entry
    simp only [List.map_cons, List.nodup_cons] at distinct
    by_cases same : name = other
    · subst same
      have absent : (name, v) ∉ rest := fun member =>
        distinct.1 (List.mem_map.mpr ⟨(name, v), member, rfl⟩)
      simp [absent, eq_comm]
    · simp [List.lookup_cons, beq_eq_false_iff_ne.mpr same, ih distinct.2, same]

theorem filter_putEntry (name : String) (v : α) (entries : List (String × α)) :
    (putEntry name v entries).filter (fun entry => entry.1 != name) =
      entries.filter fun entry => entry.1 != name := by
  induction entries with
  | nil => simp [putEntry]
  | cons entry rest ih =>
    obtain ⟨other, w⟩ := entry
    by_cases same : other = name
    · simp [putEntry, same]
    · simp [putEntry, same, ih]

theorem putEntry_putEntry (name : String) (v w : α) (entries : List (String × α)) :
    putEntry name v (putEntry name w entries) = putEntry name v entries := by
  induction entries with
  | nil => simp [putEntry]
  | cons entry rest ih =>
    obtain ⟨other, u⟩ := entry
    by_cases same : other = name
    · simp [putEntry, same]
    · simp [putEntry, same, ih]

theorem putEntry_append_cons {name : String} {front : List (String × α)}
    (absent : name ∉ front.map Prod.fst) (v w : α) (back : List (String × α)) :
    putEntry name v (front ++ (name, w) :: back) = front ++ (name, v) :: back := by
  induction front with
  | nil => simp [putEntry]
  | cons entry rest ih =>
    obtain ⟨different, absent⟩ := not_or.mp fun member => absent (List.mem_cons.mpr member)
    simp [putEntry, Ne.symm different, ih absent]

theorem filter_putEntry_of_keep (keep : String → Bool) {name : String}
    (kept : keep name = true) (v : α) (entries : List (String × α)) :
    (putEntry name v entries).filter (fun entry => keep entry.1) =
      putEntry name v (entries.filter fun entry => keep entry.1) := by
  induction entries with
  | nil => simp [putEntry, kept]
  | cons entry rest ih =>
    obtain ⟨other, w⟩ := entry
    by_cases same : other = name
    · subst same
      simp [putEntry, kept]
    · cases passes : keep other with
      | true => simp [putEntry, same, passes, ih]
      | false => simp [putEntry, same, passes, ih]

theorem putEntry_of_not_mem {name : String} {entries : List (String × α)}
    (absent : name ∉ entries.map Prod.fst) (v : α) :
    putEntry name v entries = entries ++ [(name, v)] := by
  induction entries with
  | nil => rfl
  | cons entry rest ih =>
    obtain ⟨different, absent⟩ := not_or.mp fun member => absent (List.mem_cons.mpr member)
    simp [putEntry, Ne.symm different, ih absent]

theorem map_putEntry {β : Type} (f : String → α → β) (name : String) (v : α)
    (entries : List (String × α)) :
    (putEntry name v entries).map (fun entry => (entry.1, f entry.1 entry.2)) =
      putEntry name (f name v) (entries.map fun entry => (entry.1, f entry.1 entry.2)) := by
  induction entries with
  | nil => rfl
  | cons entry rest ih =>
    obtain ⟨other, w⟩ := entry
    by_cases same : other = name
    · simp [putEntry, same]
    · simp [putEntry, same, ih]

namespace Assoc

@[simp] theorem ofList_entries (m : Assoc α) : Assoc.ofList m.entries = m := by
  have folded (entries : List (String × α)) (front : Assoc α)
      (distinct : ((front.entries ++ entries).map Prod.fst).Nodup) :
      (entries.foldl (fun m entry => m.set entry.1 entry.2) front).entries =
        front.entries ++ entries := by
    induction entries generalizing front with
    | nil => simp
    | cons entry rest ih =>
      have absent : entry.1 ∉ front.entries.map Prod.fst := by
        rw [List.map_append, List.map_cons, List.nodup_append] at distinct
        exact fun member => distinct.2.2 _ member _ List.mem_cons_self rfl
      have placed : (front.set entry.1 entry.2).entries = front.entries ++ [entry] :=
        putEntry_of_not_mem absent entry.2
      rw [List.foldl_cons, ih _ (by simpa [placed] using distinct), placed]
      simp
  exact ext (folded m.entries .empty m.distinct)

theorem entries_ofList {entries : List (String × α)} (distinct : (entries.map Prod.fst).Nodup) :
    (ofList entries).entries = entries :=
  congrArg Assoc.entries (ofList_entries ⟨entries, distinct⟩)

theorem contains_of_get? {m : Assoc α} {name : String} {v : α} (found : m.get? name = some v) :
    m.contains name = true := by
  rw [contains, found, Option.isSome_some]

theorem get?_eq_some_iff {m : Assoc α} {name : String} {v : α} :
    m.get? name = some v ↔ (name, v) ∈ m.entries :=
  lookup_eq_some_iff m.distinct

/-- A name has one entry. -/
theorem filter_name_of_mem {m : Assoc α} {name : String} {v : α} (found : (name, v) ∈ m.entries) :
    m.entries.filter (fun entry => entry.1 == name) = [(name, v)] := by
  refine filter_eq_singleton (List.Nodup.of_map Prod.fst m.distinct) found fun entry member => ?_
  rw [beq_iff_eq]
  constructor
  · intro same
    exact List.inj_on_of_nodup_map m.distinct member found same
  · rintro rfl
    rfl

theorem get?_congr {m other : Assoc α} (same : ∀ entry, entry ∈ m.entries ↔ entry ∈ other.entries)
    (name : String) : m.get? name = other.get? name := by
  apply Option.ext
  intro v
  rw [get?_eq_some_iff, get?_eq_some_iff, same]

/-- The same entries in another order answer alike. -/
@[simp] theorem get?_arranged (m : Assoc α) (entries : List (String × α))
    (same : entries.Perm m.entries) (name : String) :
    (m.arranged entries same).get? name = m.get? name :=
  get?_congr (fun _ => same.mem_iff) name

theorem get?_of_perm {m other : Assoc α} (same : m.entries.Perm other.entries) (name : String) :
    m.get? name = other.get? name :=
  get?_congr (fun _ => same.mem_iff) name

theorem get?_filter_of_keep {m : Assoc α} {keep : String → α → Bool} {name : String}
    (kept : ∀ v, keep name v = true) : (m.filter keep).get? name = m.get? name := by
  apply Option.ext
  intro v
  simp [get?_eq_some_iff, filter, kept]

theorem get?_filter_of_drop {m : Assoc α} {keep : String → α → Bool} {name : String}
    (dropped : ∀ v, keep name v = false) : (m.filter keep).get? name = none := by
  apply Option.eq_none_iff_forall_ne_some.mpr
  intro v found
  have member := get?_eq_some_iff.mp found
  simp [filter, dropped] at member

theorem filter_congr {m : Assoc α} {keep other : String → α → Bool}
    (same : ∀ name v, keep name v = other name v) : m.filter keep = m.filter other := by
  apply ext
  simp [filter, same]

@[simp] theorem get?_erase_self (m : Assoc α) (name : String) : (m.erase name).get? name = none :=
  get?_filter_of_drop (by simp)

@[simp] theorem erase_set (m : Assoc α) (name : String) (v : α) :
    (m.set name v).erase name = m.erase name :=
  ext (filter_putEntry name v m.entries)

@[simp] theorem erase_erase (m : Assoc α) (name : String) :
    (m.erase name).erase name = m.erase name := by
  apply ext
  simp [erase, filter]

theorem keys_filter (keep : String → Bool) (m : Assoc α) :
    (m.filter fun name _ => keep name).keys = m.keys.filter keep := by
  simp [keys, filter, List.filter_map, Function.comp_def]

theorem filter_set (keep : String → Bool) {name : String} (kept : keep name = true) (v : α)
    (m : Assoc α) :
    (m.set name v).filter (fun other _ => keep other) =
      (m.filter fun other _ => keep other).set name v :=
  ext (filter_putEntry_of_keep keep kept v m.entries)

theorem set_set (name : String) (v w : α) (m : Assoc α) :
    (m.set name w).set name v = m.set name v :=
  ext (putEntry_putEntry name v w m.entries)

theorem map_set {β : Type} (f : String → α → β) (name : String) (v : α) (m : Assoc α) :
    (m.set name v).map f = (m.map f).set name (f name v) :=
  ext (map_putEntry f name v m.entries)

theorem filter_filter_self (keep : String → α → Bool) (m : Assoc α) :
    (m.filter keep).filter keep = m.filter keep := by
  apply ext
  simp [filter]

theorem filter_erase (keep : String → α → Bool) (name : String) (m : Assoc α) :
    (m.erase name).filter keep = (m.filter keep).erase name := by
  apply ext
  simp [erase, filter, Bool.and_comm]

/-- Entries that name their values by a function: it answers for the names that are listed. -/
theorem get?_foldl_set (f : String → Option α) (names : List String) (m : Assoc α) (name : String) :
    ((names.filterMap fun p => (f p).map (p, ·)).foldl (fun m entry => m.set entry.1 entry.2) m).get?
      name = if name ∈ names then (f name).or (m.get? name) else m.get? name := by
  induction names generalizing m with
  | nil => rfl
  | cons p rest ih =>
    cases answer : f p with
    | none =>
      simp only [List.filterMap_cons, answer, Option.map_none, ih, List.mem_cons]
      by_cases same : name = p
      · subst same
        simp [answer]
      · simp [same]
    | some v =>
      simp only [List.filterMap_cons, answer, Option.map_some, List.foldl_cons, ih, List.mem_cons,
        get?_set]
      by_cases same : name = p
      · subst same
        simp [answer]
      · simp [same]

theorem get?_ofList_filterMap (f : String → Option α) (names : List String) (name : String) :
    (ofList (names.filterMap fun p => (f p).map (p, ·))).get? name =
      if name ∈ names then f name else none := by
  unfold ofList
  rw [get?_foldl_set]
  simp

end Assoc

end Clipping

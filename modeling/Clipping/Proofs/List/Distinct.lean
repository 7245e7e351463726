/-! Lists without the repeats of an element. What is left out of the parts of a list is left
out of the whole, so the parts may be cleared first. -/
namespace Clipping

variable {α : Type} [BEq α] [LawfulBEq α]

theorem filter_eraseDups (keep : α → Bool) (xs : List α) :
    (xs.filter keep).eraseDups = xs.eraseDups.filter keep := by
  match xs with
  | [] => rfl
  | x :: rest =>
    have shorter : (rest.filter fun y => !y == x).length < rest.length + 1 :=
      Nat.lt_succ_of_le (List.length_filter_le _ rest)
    have ih := filter_eraseDups keep (rest.filter fun y => !y == x)
    rw [List.eraseDups_cons]
    cases kept : keep x with
    | true => simp [kept, List.eraseDups_cons, ← ih, Bool.and_comm]
    | false =>
      have absent : rest.filter keep = (rest.filter fun y => !y == x).filter keep := by
        rw [List.filter_filter]
        refine List.filter_congr fun y _ => ?_
        by_cases same : y = x
        · simp [same, kept]
        · simp [same]
      have unkept : ¬keep x = true := by simp [kept]
      rw [List.filter_cons_of_neg unkept, List.filter_cons_of_neg unkept, absent, ih]
termination_by xs.length

/-- Elements that a map tells apart may be cleared before or after it. -/
theorem eraseDups_map {β : Type} [BEq β] [LawfulBEq β] {f : α → β} {xs : List α}
    (injective : ∀ x ∈ xs, ∀ y ∈ xs, f x = f y → x = y) : (xs.map f).eraseDups = xs.eraseDups.map f := by
  match xs with
  | [] => rfl
  | x :: rest =>
    have shorter : (rest.filter fun y => !y == x).length < rest.length + 1 :=
      Nat.lt_succ_of_le (List.length_filter_le _ rest)
    have inner {y : α} (member : y ∈ rest.filter fun y => !y == x) : y ∈ x :: rest :=
      List.mem_cons_of_mem x (List.mem_filter.mp member).1
    have apart : ∀ y ∈ rest.filter (fun y => !y == x), ∀ z ∈ rest.filter (fun y => !y == x), f y = f z → y = z :=
      fun y own z other => injective y (inner own) z (inner other)
    have ih := eraseDups_map apart
    have others : (rest.map f).filter (fun y => !y == f x) = (rest.filter fun y => !y == x).map f := by
      rw [List.filter_map]
      refine congrArg (List.map f) (List.filter_congr fun y member => ?_)
      have told : f y = f x ↔ y = x :=
        ⟨injective y (List.mem_cons_of_mem x member) x List.mem_cons_self, congrArg f⟩
      rw [Bool.eq_iff_iff]
      simp [told]
    rw [List.map_cons, List.eraseDups_cons, List.eraseDups_cons, List.map_cons, others, ih]
termination_by xs.length

/-- What only one element of a list passes. -/
theorem filter_eq_singleton {α : Type} {keep : α → Bool} {xs : List α} {x : α} (distinct : xs.Nodup)
    (member : x ∈ xs) (only : ∀ y ∈ xs, keep y = true ↔ y = x) : xs.filter keep = [x] := by
  induction xs with
  | nil => cases member
  | cons y rest ih =>
    obtain ⟨fresh, distinct⟩ := List.nodup_cons.mp distinct
    obtain ⟨own, others⟩ := List.forall_mem_cons.mp only
    by_cases same : y = x
    · subst same
      have none : rest.filter keep = [] := List.filter_eq_nil_iff.mpr fun z later kept => by
        obtain rfl := (others z later).mp kept
        exact fresh later
      rw [List.filter_cons_of_pos (own.mpr rfl), none]
    · have later : x ∈ rest := (List.mem_cons.mp member).resolve_left fun equal => same equal.symm
      rw [List.filter_cons_of_neg fun kept => same (own.mp kept), ih distinct later others]

theorem nodup_eraseDups (xs : List α) : xs.eraseDups.Nodup := by
  match xs with
  | [] => exact .nil
  | x :: rest =>
    have shorter : (rest.filter fun y => !y == x).length < rest.length + 1 :=
      Nat.lt_succ_of_le (List.length_filter_le _ rest)
    rw [List.eraseDups_cons, List.nodup_cons]
    constructor
    · simp [List.mem_eraseDups]
    · exact nodup_eraseDups _
termination_by xs.length

theorem eraseDups_of_nodup {xs : List α} (distinct : xs.Nodup) : xs.eraseDups = xs := by
  induction xs with
  | nil => rfl
  | cons x rest ih =>
    obtain ⟨fresh, distinct⟩ := List.nodup_cons.mp distinct
    have kept : rest.filter (fun y => !y == x) = rest :=
      List.filter_eq_self.mpr fun y member => by
        simp only [Bool.not_eq_true', beq_eq_false_iff_ne]
        rintro rfl
        exact fresh member
    rw [List.eraseDups_cons, kept, ih distinct]

@[simp] theorem eraseDups_eraseDups (xs : List α) : xs.eraseDups.eraseDups = xs.eraseDups :=
  eraseDups_of_nodup (nodup_eraseDups xs)

theorem eraseDups_append_eraseDups (xs ys : List α) :
    (xs.eraseDups ++ ys.eraseDups).eraseDups = (xs ++ ys).eraseDups := by
  have same : (fun y => !xs.eraseDups.elem y) = fun y => !xs.elem y := by
    funext y
    rw [Bool.eq_iff_iff]
    simp [List.mem_eraseDups]
  rw [List.eraseDups_append, List.eraseDups_append, eraseDups_eraseDups]
  unfold List.removeAll
  rw [same, filter_eraseDups, filter_eraseDups, eraseDups_eraseDups]

/-- Clearing the parts of a list first changes nothing. -/
theorem eraseDups_flatMap_append {ι : Type} (parts : List ι) (f : ι → List α) (last : List α) :
    ((parts.flatMap fun i => (f i).eraseDups) ++ last).eraseDups =
      (parts.flatMap f ++ last).eraseDups := by
  induction parts with
  | nil => rfl
  | cons i rest ih =>
    simp only [List.flatMap_cons, List.append_assoc]
    rw [← eraseDups_append_eraseDups, ih, eraseDups_eraseDups, eraseDups_append_eraseDups]

end Clipping

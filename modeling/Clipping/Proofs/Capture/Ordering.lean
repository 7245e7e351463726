import Clipping.Proofs.Capture.Kept
import Mathlib.Data.List.Nodup

/-! The order of a comparison. What is declared stands as the compared properties do. Where a
display is put back the declarations are arranged anew, by one order of all properties that does
not look at the list that is compared. -/
namespace Clipping

variable {α : Type}

/-- A stable sort: what its order does not tell apart stays as it stood. -/
theorem pairwise_mergeSort_ties {le : α → α → Bool} {R : α → α → Prop}
    (trans : ∀ a b c, le a b = true → le b c = true → le a c = true)
    (total : ∀ a b, (le a b || le b a) = true) {l : List α} (ordered : l.Pairwise R) :
    (l.mergeSort le).Pairwise fun a b => le b a = true → R a b := by
  induction l with
  | nil => simp
  | cons x rest ih =>
    obtain ⟨front, back, placed, sorted, smaller⟩ := List.mergeSort_cons trans total x rest
    obtain ⟨ahead, ordered⟩ := List.pairwise_cons.mp ordered
    have ih := ih ordered
    rw [sorted, List.pairwise_append] at ih
    obtain ⟨before, behind, across⟩ := ih
    have fromRest {y : α} (member : y ∈ back) : y ∈ rest := by
      have sortedMember : y ∈ rest.mergeSort le := sorted ▸ List.mem_append_right front member
      exact List.mem_mergeSort.mp sortedMember
    rw [placed, List.pairwise_append, List.pairwise_cons]
    refine ⟨before, ⟨fun y member _ => ahead y (fromRest member), behind⟩, fun y member z next => ?_⟩
    rcases List.mem_cons.mp next with rfl | next
    · exact fun tie => absurd tie (by simpa using smaller y member)
    · exact across y member z next

/-- Sorted by a number, and as before where the number is the same. -/
theorem pairwise_mergeSort_by (f : α → Nat) {R : α → α → Prop} {l : List α} (ordered : l.Pairwise R) :
    (l.mergeSort fun a b => f a ≤ f b).Pairwise fun a b => f a < f b ∨ f a = f b ∧ R a b := by
  have trans : ∀ a b c : α, decide (f a ≤ f b) = true → decide (f b ≤ f c) = true →
      decide (f a ≤ f c) = true := by
    simp only [decide_eq_true_eq]
    omega
  have total : ∀ a b : α, (decide (f a ≤ f b) || decide (f b ≤ f a)) = true := by
    simp only [Bool.or_eq_true, decide_eq_true_eq]
    omega
  have sorted := List.pairwise_mergeSort trans total l
  have ties := pairwise_mergeSort_ties trans total ordered
  refine (sorted.and ties).imp fun {a b} ⟨below, tie⟩ => ?_
  simp only [decide_eq_true_eq] at below tie
  rcases Nat.lt_or_eq_of_le below with lower | same
  · exact .inl lower
  · exact .inr ⟨same, tie (Nat.le_of_eq same.symm)⟩

theorem pairwise_idxOf [BEq α] [LawfulBEq α] {l : List α} (distinct : l.Nodup) :
    l.Pairwise fun a b => l.idxOf a < l.idxOf b := by
  refine List.pairwise_iff_getElem.mpr fun i j low high before => ?_
  rwa [distinct.idxOf_getElem i low, distinct.idxOf_getElem j high]

namespace Property

theorem nodup_tracked : tracked.Nodup := by decide +kernel

/-- The rank of a property among all: those that no page is asked for by itself come first, the
display next, then the others as they are tracked. -/
def rank (name : String) : Nat :=
  match tracked.idxOf? name with
  | some place => place + 1
  | none => 0

theorem position_eq (name : String) : position name = rank name - 1 := by
  unfold position rank
  cases tracked.idxOf? name with
  | some place => rfl
  | none => rfl

theorem rank_of_getElem {place : Nat} (low : place < tracked.length) : rank tracked[place] = place + 1 := by
  have found : tracked.idxOf? tracked[place] = some place :=
    List.idxOf?_eq_some_iff.mpr ⟨low, rfl, fun j before same =>
      absurd ((List.Nodup.getElem_inj_iff nodup_tracked).mp same) (Nat.ne_of_lt before)⟩
  rw [rank, found]

theorem rank_display : rank "display" = 1 := rank_of_getElem (show 0 < tracked.length by decide)

theorem eq_display_of_rank {name : String} (first : rank name = 1) : name = "display" := by
  unfold rank at first
  split at first
  · next place found =>
    obtain ⟨low, rfl, -⟩ := List.idxOf?_eq_some_iff.mp found
    obtain rfl : place = 0 := Nat.succ.inj first
    rfl
  · cases first

theorem pairwise_rank_tracked : tracked.Pairwise fun p q => rank p < rank q := by
  refine List.pairwise_iff_getElem.mpr fun i j low high before => ?_
  rw [rank_of_getElem low, rank_of_getElem high]
  exact Nat.succ_lt_succ before

end Property

namespace Sieve

open Property

variable {s : Sieve} {tag : String} {values : String → String} {parent : Option (String → String)}

/-- No display is declared, but the one there is goes back in. -/
def PutsBack (s : Sieve) (tag : String) (values : String → String) (parent : Option (String → String)) :
    Prop :=
  s.declared? tag values parent "display" = none ∧ s.isForced tag (values "display") = true

instance : Decidable (s.PutsBack tag values parent) := inferInstanceAs (Decidable (_ ∧ _))

def survivors (s : Sieve) (tag : String) (values : String → String) (parent : Option (String → String)) :
    List String :=
  s.tracked.filter (s.compare tag values parent).contains

theorem keys_kept (distinct : s.tracked.Nodup) : (s.kept tag values parent).keys =
    s.tracked.filter fun p => (s.declared? tag values parent p).isSome := by
  have keyed : (s.tracked.filterMap fun p => (s.declared? tag values parent p).map (p, ·)).map Prod.fst =
      s.tracked.filter fun p => (s.declared? tag values parent p).isSome := by
    rw [List.map_filterMap, ← List.filterMap_eq_filter]
    refine List.filterMap_congr fun p _ => ?_
    cases declared : s.declared? tag values parent p with
    | some w => simp [Option.guard, declared]
    | none => simp [Option.guard, declared]
  rw [Assoc.keys, kept, Assoc.entries_ofList (keyed ▸ distinct.filter _), keyed]

theorem keys_byPosition (d : Declarations) :
    (byPosition d).keys = d.keys.mergeSort fun p q => position p ≤ position q :=
  List.map_mergeSort fun _ _ _ _ => rfl

theorem compare_of_putsBack (shown : "display" ∈ s.tracked) (back : s.PutsBack tag values parent) :
    s.compare tag values parent = byPosition ((s.kept tag values parent).set "display" (values "display")) := by
  rw [compare_eq, contains_kept shown, back.1, forced?, if_pos back.2]
  rfl

theorem compare_of_not_putsBack (shown : "display" ∈ s.tracked) (kept : ¬s.PutsBack tag values parent) :
    s.compare tag values parent = s.kept tag values parent := by
  rw [compare_eq, contains_kept shown, forced?]
  cases declared : s.declared? tag values parent "display" with
  | some display => rfl
  | none =>
    rw [if_neg fun forced => kept ⟨declared, forced⟩]
    rfl

/-- A display that goes back in comes last, before all is sorted. -/
theorem keys_of_putsBack (distinct : s.tracked.Nodup) (shown : "display" ∈ s.tracked)
    (back : s.PutsBack tag values parent) : (s.compare tag values parent).keys =
      ((s.kept tag values parent).keys ++ ["display"]).mergeSort fun p q => position p ≤ position q := by
  have absent : "display" ∉ (s.kept tag values parent).keys := by
    rw [keys_kept distinct, List.mem_filter, back.1]
    simp
  rw [compare_of_putsBack shown back, keys_byPosition, Assoc.keys_set, if_neg absent]

theorem mem_survivors (shown : "display" ∈ s.tracked) {p : String} :
    p ∈ s.survivors tag values parent ↔ p ∈ (s.compare tag values parent).keys := by
  rw [survivors, List.mem_filter, Assoc.mem_keys_iff, Assoc.contains, and_iff_right_iff_imp, get?_compare]
  intro declared
  by_cases tracked : p ∈ s.tracked
  · exact tracked
  · by_cases display : p = "display"
    · exact display ▸ shown
    · simp [tracked, display] at declared

theorem keys_perm_survivors (distinct : s.tracked.Nodup) (shown : "display" ∈ s.tracked) :
    (s.compare tag values parent).keys.Perm (s.survivors tag values parent) :=
  (List.perm_ext_iff_of_nodup (s.compare tag values parent).distinct (distinct.filter _)).mpr fun _ =>
    (mem_survivors shown).symm

/-- The first property has the lower rank, or the same rank and an earlier place among those that
are compared. -/
def Precedes (s : Sieve) (p q : String) : Prop :=
  rank p < rank q ∨ rank p = rank q ∧ s.tracked.idxOf p < s.tracked.idxOf q

theorem Precedes.asymm {p q : String} (forth : s.Precedes p q) : ¬s.Precedes q p := by
  unfold Precedes at *
  omega

theorem pairwise_survivors (distinct : s.tracked.Nodup) :
    (s.survivors tag values parent).Pairwise fun p q => s.tracked.idxOf p < s.tracked.idxOf q :=
  (pairwise_idxOf distinct).sublist List.filter_sublist

/-- The survivors by rank, and as they are compared where the rank is the same. -/
def ranked (s : Sieve) (tag : String) (values : String → String) (parent : Option (String → String)) :
    List String :=
  (s.survivors tag values parent).mergeSort fun p q => rank p ≤ rank q

theorem precedes_ranked (distinct : s.tracked.Nodup) :
    (s.ranked tag values parent).Pairwise s.Precedes :=
  pairwise_mergeSort_by rank (pairwise_survivors distinct)

/-- Places tell properties apart as ranks do, but for the display: where those of no rank stand,
the display stands too. -/
theorem rank_lt_of_position {p q : String} (lower : position p < position q) : rank p < rank q := by
  rw [position_eq, position_eq] at lower
  omega

theorem rank_eq_of_position {p q : String} (same : position p = position q) (left : p ≠ "display")
    (right : q ≠ "display") : rank p = rank q := by
  rw [position_eq, position_eq] at same
  have left : rank p ≠ 1 := fun first => left (eq_display_of_rank first)
  have right : rank q ≠ 1 := fun first => right (eq_display_of_rank first)
  omega

theorem rank_lt_display {p : String} (same : position p = position "display") (other : p ≠ "display") :
    rank p < rank "display" := by
  rw [position_eq, position_eq, rank_display] at same
  have other : rank p ≠ 1 := fun first => other (eq_display_of_rank first)
  rw [rank_display]
  omega

theorem pairwise_kept (distinct : s.tracked.Nodup) : (s.kept tag values parent).keys.Pairwise fun p q =>
    s.tracked.idxOf p < s.tracked.idxOf q := by
  rw [keys_kept distinct]
  exact (pairwise_idxOf distinct).sublist List.filter_sublist

theorem precedes_of_putsBack (distinct : s.tracked.Nodup) (shown : "display" ∈ s.tracked)
    (back : s.PutsBack tag values parent) : (s.compare tag values parent).keys.Pairwise s.Precedes := by
  have other {p : String} (member : p ∈ (s.kept tag values parent).keys) : p ≠ "display" := by
    rintro rfl
    rw [keys_kept distinct, List.mem_filter, back.1] at member
    exact Bool.false_ne_true member.2
  have placed : ((s.kept tag values parent).keys ++ ["display"]).Pairwise fun p q =>
      position p = position q → s.Precedes p q := by
    refine List.pairwise_append.mpr ⟨?_, List.pairwise_singleton _ _, ?_⟩
    · exact (pairwise_kept distinct).imp_of_mem fun left right before same =>
        .inr ⟨rank_eq_of_position same (other left) (other right), before⟩
    · intro p member q last same
      obtain rfl := List.mem_singleton.mp last
      exact .inl (rank_lt_display same (other member))
  rw [keys_of_putsBack distinct shown back]
  refine (pairwise_mergeSort_by position placed).imp ?_
  rintro p q (lower | ⟨same, precedes⟩)
  · exact .inl (rank_lt_of_position lower)
  · exact precedes same

/-- All there is to the order: the survivors stand as they are compared, but by rank where a
display goes back in. -/
theorem keys_compare (distinct : s.tracked.Nodup) (shown : "display" ∈ s.tracked) :
    (s.compare tag values parent).keys =
      if s.PutsBack tag values parent then s.ranked tag values parent else s.survivors tag values parent := by
  split
  · next back =>
    refine List.Perm.eq_of_pairwise (fun p q _ _ forth behind => absurd behind forth.asymm)
      (precedes_of_putsBack distinct shown back) (precedes_ranked distinct) ?_
    exact (keys_perm_survivors distinct shown).trans (List.mergeSort_perm _ _).symm
  · next back =>
    refine List.Perm.eq_of_pairwise (fun p q _ _ forth behind => absurd behind (Nat.lt_asymm forth))
      ?_ (pairwise_survivors distinct) (keys_perm_survivors distinct shown)
    rw [compare_of_not_putsBack shown back]
    exact pairwise_kept distinct

/-- In a list without repetitions the survivors have one order that is that of the list. -/
theorem sublist_tracked_iff (distinct : s.tracked.Nodup) {keys : List String}
    (same : keys.Perm (s.survivors tag values parent)) :
    keys.Sublist s.tracked ↔ keys = s.survivors tag values parent := by
  constructor
  · intro part
    exact List.Perm.eq_of_pairwise (fun p q _ _ forth behind => absurd behind (Nat.lt_asymm forth))
      ((pairwise_idxOf distinct).sublist part) (pairwise_survivors distinct) same
  · rintro rfl
    exact List.filter_sublist

theorem ranked_eq_iff : s.ranked tag values parent = s.survivors tag values parent ↔
    (s.survivors tag values parent).Pairwise fun p q => rank p ≤ rank q := by
  constructor
  · intro same
    rw [← same]
    refine (pairwise_mergeSort_by rank (List.pairwise_of_forall fun _ _ => trivial)).imp ?_
    rintro p q (lower | ⟨same, -⟩)
    · exact Nat.le_of_lt lower
    · exact Nat.le_of_eq same
  · exact fun sorted => List.mergeSort_of_pairwise (sorted.imp decide_eq_true)

theorem keys_sublist_iff (distinct : s.tracked.Nodup) (shown : "display" ∈ s.tracked) :
    (s.compare tag values parent).keys.Sublist s.tracked ↔
      (s.PutsBack tag values parent →
        (s.survivors tag values parent).Pairwise fun p q => rank p ≤ rank q) := by
  rw [sublist_tracked_iff distinct (keys_perm_survivors distinct shown), keys_compare distinct shown]
  split
  · next back => rw [ranked_eq_iff, forall_prop_of_true back]
  · next back => simp [back]

/-- The declarations of a comparison stand as the properties are compared, save that they stand by
rank where a display goes back in. So they leave the order of the list exactly where a display goes
back in and the list has the survivors in another order than their ranks; no selection of the
tracked properties does. -/
theorem compare_ordered (s : Sieve) (tag : String) (values : String → String)
    (parent : Option (String → String)) (distinct : s.tracked.Nodup) (shown : "display" ∈ s.tracked) :
    (s.compare tag values parent).keys =
        (if s.PutsBack tag values parent then s.ranked tag values parent
        else s.survivors tag values parent) ∧
      ((s.compare tag values parent).keys.Sublist s.tracked ↔
        (s.PutsBack tag values parent →
          (s.survivors tag values parent).Pairwise fun p q => rank p ≤ rank q)) ∧
      (s.tracked.Sublist Property.tracked → (s.compare tag values parent).keys.Sublist s.tracked) := by
  refine ⟨keys_compare distinct shown, keys_sublist_iff distinct shown, fun part => ?_⟩
  have sorted : s.tracked.Pairwise fun p q => rank p ≤ rank q :=
    (pairwise_rank_tracked.sublist part).imp Nat.le_of_lt
  exact (keys_sublist_iff distinct shown).mpr fun _ => sorted.sublist List.filter_sublist

def comparing (tracked : List String) : Sieve := { standard with tracked }

def hiddenTint (p : String) : String :=
  if p = "display" then "none" else if p = "color" then "red" else if p = "--tone" then "warm" else ""

/-- A property of the page's own stays in front of a display that goes back in. -/
theorem compare_ordered_toned :
    ["--tone", "display", "color"].Nodup ∧ "display" ∈ ["--tone", "display", "color"] ∧
      (comparing ["--tone", "display", "color"]).PutsBack "div" hiddenTint none ∧
      ((comparing ["--tone", "display", "color"]).compare "div" hiddenTint none).keys.Sublist
        ["--tone", "display", "color"] := by
  refine ⟨by decide, by decide, by decide, ?_⟩
  refine (compare_ordered (comparing _) "div" hiddenTint none (by decide) (by decide)).2.1.mpr fun _ => ?_
  have sorted : ["--tone", "display", "color"].Pairwise fun p q => rank p ≤ rank q := by decide
  exact sorted.sublist List.filter_sublist

/-- A display that is compared behind a colour goes back in before it. -/
theorem display_before_color :
    ["color", "display"].Nodup ∧ "display" ∈ ["color", "display"] ∧
      ((comparing ["color", "display"]).compare "div" hiddenTint none).keys = ["display", "color"] ∧
      ¬((comparing ["color", "display"]).compare "div" hiddenTint none).keys.Sublist
        ["color", "display"] := by
  have keys : ((comparing ["color", "display"]).compare "div" hiddenTint none).keys =
      ["display", "color"] := by
    have red : (comparing ["color", "display"]).tracked.filter (fun p =>
        ((comparing ["color", "display"]).declared? "div" hiddenTint none p).isSome) = ["color"] := by
      decide
    have later : ¬position "color" ≤ position "display" := by decide
    rw [keys_of_putsBack (by decide) (by decide) (by decide), keys_kept (by decide), red]
    simp [List.mergeSort, later]
  refine ⟨by decide, by decide, keys, ?_⟩
  rw [keys]
  decide

end Sieve

end Clipping

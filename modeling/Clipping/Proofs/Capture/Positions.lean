import Clipping.Capture.Binding
import Clipping.Proofs.Capture.Records
import Clipping.Proofs.Markup.Clearing
import Mathlib.Data.List.Nodup

/-! Style objects by position. Objects are bound to the keys of elements and records are
counted along the walk; where keys tell the elements apart, the two agree: the record at a
place comes from the object at that place and the one at the place of the element's parent. -/
namespace Clipping

open Markup

variable {κ : Type}

namespace Markup

/-- In the content of an element with the head `above`, the element `child` stands directly
in the element `parent`. -/
inductive Content.Holds (parent child : Head κ) : Head κ → Content κ → Prop where
  | here {inner rest} : Holds parent child parent (.element child inner rest)
  | inside {above head inner rest} : Holds parent child head inner →
      Holds parent child above (.element head inner rest)
  | afterText {above run rest} : Holds parent child above rest →
      Holds parent child above (.text run rest)
  | afterElement {above head inner rest} : Holds parent child above rest →
      Holds parent child above (.element head inner rest)

def Element.Holds (e : Element κ) (parent child : Head κ) : Prop :=
  e.content.Holds parent child e.head

theorem Content.Holds.of_prune {drop : Head κ → Bool} {parent child above : Head κ} {c : Content κ}
    (holds : (c.prune drop).Holds parent child above) : c.Holds parent child above := by
  induction c generalizing above with
  | nil => exact holds
  | text run rest ih =>
    cases holds with
    | afterText later => exact .afterText (ih later)
  | element head inner rest ih₁ ih₂ =>
    unfold prune at holds
    split at holds
    · exact .afterElement (ih₂ holds)
    · cases holds with
      | here => exact .here
      | inside within => exact .inside (ih₁ within)
      | afterElement later => exact .afterElement (ih₂ later)

/-- The number of a parent is that of the element around the content or of one met before. -/
theorem Content.parent_of_mem_visits {parent next : Nat} (below : parent < next) (above : Head κ)
    {c : Content κ} {v : Visit κ} (met : v ∈ c.visits parent next) :
    ∃ j, v.parent = some j ∧ j < v.index ∧ next ≤ v.index ∧
      (j = parent ∧ c.Holds above v.head above ∨
        ∃ a ∈ c.visits parent next, a.index = j ∧ c.Holds a.head v.head above) := by
  induction c generalizing parent next above with
  | nil => simp [visits] at met
  | text run rest ih =>
    obtain ⟨j, number, before, after, outer | ⟨a, member, index, inner⟩⟩ := ih below above met
    · exact ⟨j, number, before, after, .inl ⟨outer.1, .afterText outer.2⟩⟩
    · exact ⟨j, number, before, after, .inr ⟨a, member, index, .afterText inner⟩⟩
  | element head inner rest ih₁ ih₂ =>
    simp only [visits, List.mem_cons, List.mem_append] at met ⊢
    rcases met with rfl | within | later
    · exact ⟨parent, rfl, below, Nat.le_refl _, .inl ⟨rfl, .here⟩⟩
    · obtain ⟨j, number, before, after, outer | ⟨a, member, index, holds⟩⟩ :=
        ih₁ (Nat.lt_succ_self next) head within
      · exact ⟨j, number, before, by omega,
          .inr ⟨_, .inl rfl, outer.1.symm, .inside outer.2⟩⟩
      · exact ⟨j, number, before, by omega,
          .inr ⟨a, .inr (.inl member), index, .inside holds⟩⟩
    · obtain ⟨j, number, before, after, outer | ⟨a, member, index, holds⟩⟩ :=
        ih₂ (show parent < next + 1 + inner.heads.length by omega) above later
      · exact ⟨j, number, before, by omega, .inl ⟨outer.1, .afterElement outer.2⟩⟩
      · exact ⟨j, number, before, by omega,
          .inr ⟨a, .inr (.inr member), index, .afterElement holds⟩⟩

/-- An element of a walk is the root, or its parent was met at a smaller place. -/
theorem Element.parent_walk {stem : String} {e : Element κ} {i : Nat} {v : Visit κ}
    (met : (e.walk stem)[i]? = some v) :
    i = 0 ∧ v.parent = none ∧ v.head = e.head ∨
      ∃ j a, v.parent = some j ∧ j < i ∧ (e.walk stem)[j]? = some a ∧ e.Holds a.head v.head := by
  have index : v.index = i := (getElem?_visits met).1
  cases i with
  | zero =>
    obtain rfl : ⟨0, e.head, none⟩ = v := Option.some.inj met
    exact .inl ⟨rfl, rfl, rfl⟩
  | succ i =>
    have member : v ∈ (e.content.prune (·.hasIdStem stem)).visits 0 1 := List.mem_of_getElem? met
    obtain ⟨j, number, before, -, outer | ⟨a, earlier, same, holds⟩⟩ :=
      Content.parent_of_mem_visits Nat.zero_lt_one e.head member
    · obtain ⟨rfl, holds⟩ := outer
      exact .inr ⟨0, ⟨0, e.head, none⟩, number, Nat.succ_pos i, rfl, holds.of_prune⟩
    · have listed : a ∈ e.walk stem := List.mem_cons_of_mem _ earlier
      obtain ⟨k, found⟩ := List.mem_iff_getElem?.mp listed
      obtain rfl : k = j := (getElem?_visits found).1.symm.trans same
      exact .inr ⟨k, a, number, index ▸ before, found, holds.of_prune⟩

theorem Element.head_mem_of_mem_walk {stem : String} {e : Element κ} {v : Visit κ}
    (met : v ∈ e.walk stem) : v.head ∈ e.heads := by
  refine (e.heads_withoutOverlays_sublist stem).subset ?_
  rw [← map_head_visits]
  exact List.mem_map_of_mem met

end Markup

theorem Record.getElem?_of_walk {config : Config} {resolve : Resolver κ} {e : Element κ} {i : Nat}
    {v : Visit κ} (met : (e.walk config.overlayStem)[i]? = some v) :
    (ofElement config resolve e)[i]? =
      some (ofVisit config resolve (e.walk config.overlayStem) v) := by
  rw [ofElement, List.getElem?_map, met, Option.map_some]

namespace Binding

/-- What an object answers for a property: the value as a text without the blanks around
it, and the empty text where there is none. -/
def answers (item : Json) (property : String) : String :=
  strip (((item.field? property).map valueText).getD "")

def IsFirstOther (items : List Json) (k : Nat) : Prop :=
  (∃ item, items[k]? = some item ∧ item.fields? = none) ∧
    ∀ j < k, ∀ item, items[j]? = some item → item.fields? ≠ none

theorem isFirstOther_cons_succ {item : Json} {items : List Json} {k : Nat} :
    IsFirstOther (item :: items) (k + 1) ↔ item.fields? ≠ none ∧ IsFirstOther items k := by
  constructor
  · rintro ⟨⟨other, found, bad⟩, before⟩
    refine ⟨before 0 (by omega) item rfl, ⟨other, found, bad⟩, fun j small item found => ?_⟩
    exact before (j + 1) (by omega) item found
  · rintro ⟨good, ⟨other, found, bad⟩, before⟩
    refine ⟨⟨other, found, bad⟩, fun j small item found => ?_⟩
    cases j with
    | zero => exact Option.some.inj found ▸ good
    | succ j => exact before j (by omega) item found

theorem ofItems_eq (position : Nat) {keys : List κ} {items : List Json}
    (paired : keys.length = items.length) :
    (∃ entries, ofItems position keys items = .ok entries ∧
      (∀ item ∈ items, item.fields? ≠ none) ∧ entries.map Prod.fst = keys ∧
      entries.map (some ·.2) = items.map Json.fields?) ∨
    ∃ k, ofItems position keys items = .error (.notObject (position + k)) ∧ IsFirstOther items k := by
  induction keys generalizing position items with
  | nil =>
    obtain rfl := List.length_eq_zero_iff.mp paired.symm
    exact .inl ⟨[], rfl, by simp, rfl, rfl⟩
  | cons key keys ih =>
    obtain ⟨item, items, rfl⟩ := List.exists_cons_of_length_eq_add_one paired.symm
    cases object : item.fields? with
    | none =>
      refine .inr ⟨0, by simp [ofItems, object], ⟨item, rfl, object⟩, ?_⟩
      intro j small
      omega
    | some fields =>
      have good : item.fields? ≠ none := by simp [object]
      rcases ih (position + 1) (Nat.succ.inj paired) with
        ⟨entries, bound, objects, own, same⟩ | ⟨k, refused, first⟩
      · refine .inl ⟨(key, fields) :: entries, ?_, ?_, ?_, ?_⟩
        · simp only [ofItems, object, bound]
          rfl
        · exact List.forall_mem_cons.mpr ⟨good, objects⟩
        · simp [own]
        · simp only [List.map_cons, same, object]
      · refine .inr ⟨k + 1, ?_, isFirstOther_cons_succ.mpr ⟨good, first⟩⟩
        simp only [ofItems, object, refused]
        show Except.error (Fault.notObject (position + 1 + k)) = _
        rw [Nat.add_right_comm, Nat.add_assoc]

theorem IsFirstOther.unique {items : List Json} {j k : Nat} (first : IsFirstOther items j)
    (second : IsFirstOther items k) : j = k := by
  obtain ⟨⟨item, found, bad⟩, before⟩ := first
  obtain ⟨⟨item', found', bad'⟩, before'⟩ := second
  rcases Nat.lt_trichotomy j k with small | same | small
  · exact absurd bad (before' j small item found)
  · exact same
  · exact absurd bad' (before k small item' found')

theorem IsFirstOther.not_forall {items : List Json} {k : Nat} (first : IsFirstOther items k) :
    ¬∀ item ∈ items, item.fields? ≠ none := by
  obtain ⟨⟨item, found, bad⟩, -⟩ := first
  exact fun objects => objects item (List.mem_of_getElem? found) bad

/-- A binding is refused for the number of its objects, or for its first item that is no
object, or it is given. -/
theorem ofStyles_cases (walk : List (Visit κ)) (styles : List Json) :
    walk.length ≠ styles.length ∧
      ofStyles walk styles = .error (.mismatch walk.length styles.length) ∨
    walk.length = styles.length ∧ ((∃ k, IsFirstOther styles k ∧
        ofStyles walk styles = .error (.notObject k)) ∨
      (∀ item ∈ styles, item.fields? ≠ none) ∧ ∃ b, ofStyles walk styles = .ok b ∧
        b.entries.map Prod.fst = walk.map (·.head.key) ∧
        b.entries.map (some ·.2) = styles.map Json.fields?) := by
  by_cases paired : walk.length = styles.length
  · refine .inr ⟨paired, ?_⟩
    have lengths : (walk.map (·.head.key)).length = styles.length := by rw [List.length_map, paired]
    rw [ofStyles, if_pos paired]
    rcases ofItems_eq 0 lengths with ⟨entries, given, objects, own, same⟩ | ⟨k, refused, first⟩
    · exact .inr ⟨objects, ⟨entries⟩, by rw [given]; rfl, own, same⟩
    · exact .inl ⟨k, first, by rw [refused, Nat.zero_add]; rfl⟩
  · exact .inl ⟨paired, by rw [ofStyles, if_neg paired]⟩

theorem ofStyles_eq_ok {walk : List (Visit κ)} {styles : List Json} {b : Binding κ}
    (bound : ofStyles walk styles = .ok b) :
    walk.length = styles.length ∧ b.entries.map Prod.fst = walk.map (·.head.key) ∧
      b.entries.map (some ·.2) = styles.map Json.fields? := by
  rcases ofStyles_cases walk styles with
    ⟨-, refused⟩ | ⟨paired, ⟨k, -, refused⟩ | ⟨-, given, found, own, same⟩⟩
  · cases refused.symm.trans bound
  · cases refused.symm.trans bound
  · obtain rfl : given = b := Except.ok.inj (found.symm.trans bound)
    exact ⟨paired, own, same⟩

theorem lookup_eq_none {α : Type} [DecidableEq κ] {entries : List (κ × α)} {key : κ}
    (absent : key ∉ entries.map Prod.fst) : entries.lookup key = none := by
  rw [List.lookup_eq_none_iff]
  intro entry member
  have different : entry.1 ≠ key := fun same => absent (List.mem_map.mpr ⟨entry, member, same⟩)
  simpa using different.symm

theorem resolve_of_lookup [DecidableEq κ] {b : Binding κ} {key : κ} {item : Json}
    (found : b.entries.reverse.lookup key = item.fields?) (property : String) :
    Resolver.values b.resolve key property = answers item property := by
  unfold Resolver.values resolve answers
  rw [found]
  cases item with
  | object fields =>
    cases value : fields.lookup property with
    | none => simp [Json.fields?, Json.field?, value]
    | some v => simp [Json.fields?, Json.field?, value]
  | _ => rfl

end Binding

/-- What the elements of a tree get from style objects that are bound to its walk. -/
structure Positioned [DecidableEq κ] (config : Config) (e : Element κ) (styles : List Json)
    (b : Binding κ) : Prop where
  /-- The walk meets in document order what no overlay holds. -/
  order : (e.walk config.overlayStem).map Visit.head = (e.withoutOverlays config.overlayStem).heads
  length : (Record.ofElement config b.resolve e).length = styles.length
  /-- The root takes the first object and has no parent. -/
  root : ∃ item r, styles[0]? = some item ∧ (Record.ofElement config b.resolve e)[0]? = some r ∧
    r.styles = Sieve.standard.compare e.head.tag (Binding.answers item) none
  /-- Any other element takes the object of its place, and that of its parent's place,
  which is smaller. -/
  placed : ∀ i v, (e.walk config.overlayStem)[i + 1]? = some v →
    ∃ j a item above r, j < i + 1 ∧ (e.walk config.overlayStem)[j]? = some a ∧
      e.Holds a.head v.head ∧ styles[i + 1]? = some item ∧ styles[j]? = some above ∧
      (Record.ofElement config b.resolve e)[i + 1]? = some r ∧
      r.styles = Sieve.standard.compare v.head.tag (Binding.answers item)
        (some (Binding.answers above))
  /-- An element that is not met has no answers, be it in an overlay or not in the tree. -/
  overlays : ∀ h ∈ e.heads, h ∉ (e.walk config.overlayStem).map Visit.head →
    ∀ property, b.resolve h.key property = ""
  foreign : ∀ key, key ∉ e.heads.map Head.key → ∀ property, b.resolve key property = ""

namespace Binding

variable [DecidableEq κ] {config : Config} {e : Element κ} {styles : List Json} {b : Binding κ}

theorem resolve_of_unmet {walk : List (Visit κ)} (bound : ofStyles walk styles = .ok b) {key : κ}
    (absent : key ∉ walk.map (·.head.key)) (property : String) : b.resolve key property = "" := by
  rw [← (ofStyles_eq_ok bound).2.1, ← List.mem_reverse, ← List.map_reverse] at absent
  simp [resolve, lookup_eq_none absent]

theorem values_eq_answers (distinct : (e.heads.map Head.key).Nodup)
    (bound : ofStyles (e.walk config.overlayStem) styles = .ok b) {i : Nat} {v : Visit κ}
    (met : (e.walk config.overlayStem)[i]? = some v) :
    ∃ item, styles[i]? = some item ∧ b.resolve.values v.head.key = answers item := by
  obtain ⟨paired, keys, fields⟩ := ofStyles_eq_ok bound
  have own := congrArg (·[i]?) keys
  have object := congrArg (·[i]?) fields
  simp only [List.getElem?_map, met, Option.map_some] at own object
  obtain ⟨⟨key, found⟩, listed, rfl⟩ := Option.map_eq_some_iff.mp own
  rw [listed, Option.map_some] at object
  obtain ⟨item, at', same⟩ := Option.map_eq_some_iff.mp object.symm
  have unique : (b.entries.reverse.map Prod.fst).Nodup := by
    have walked : ((e.withoutOverlays config.overlayStem).heads.map Head.key).Nodup :=
      distinct.sublist ((e.heads_withoutOverlays_sublist config.overlayStem).map Head.key)
    rw [← Element.map_head_visits, List.map_map] at walked
    rwa [List.map_reverse, List.nodup_reverse, keys]
  refine ⟨item, at', funext fun property => resolve_of_lookup ?_ property⟩
  rw [(lookup_eq_some_iff unique).mpr (List.mem_reverse.mpr (List.mem_of_getElem? listed)), same]

theorem positioned (distinct : (e.heads.map Head.key).Nodup)
    (bound : ofStyles (e.walk config.overlayStem) styles = .ok b) :
    Positioned config e styles b where
  order := Element.map_head_visits _
  length := by
    rw [← (ofStyles_eq_ok bound).1]
    simp [Record.ofElement]
  root := by
    have met : (e.walk config.overlayStem)[0]? = some ⟨0, e.head, none⟩ := rfl
    obtain ⟨item, own, values⟩ := values_eq_answers distinct bound met
    refine ⟨item, _, own, Record.getElem?_of_walk met, ?_⟩
    simp only [Record.ofVisit, Option.bind_none, Option.map_none, values]
  placed := by
    intro i v met
    rcases Element.parent_walk met with root | ⟨j, a, number, before, earlier, holds⟩
    · exact absurd root.1 (Nat.succ_ne_zero i)
    · obtain ⟨item, own, values⟩ := values_eq_answers distinct bound met
      obtain ⟨above, ofParent, handed⟩ := values_eq_answers distinct bound earlier
      refine ⟨j, a, item, above, _, before, earlier, holds, own, ofParent,
        Record.getElem?_of_walk met, ?_⟩
      simp only [Record.ofVisit, number, Option.bind_some, earlier, Option.map_some, values, handed]
  overlays := by
    intro h member absent property
    refine resolve_of_unmet bound (fun met => absent ?_) property
    obtain ⟨v, walked, same⟩ := List.mem_map.mp met
    obtain rfl : v.head = h :=
      List.inj_on_of_nodup_map distinct (Element.head_mem_of_mem_walk walked) member same
    exact List.mem_map_of_mem walked
  foreign := by
    intro key absent property
    refine resolve_of_unmet bound (fun met => absent ?_) property
    obtain ⟨v, walked, rfl⟩ := List.mem_map.mp met
    exact List.mem_map_of_mem (Element.head_mem_of_mem_walk walked)

/-- Binding fails for a wrong number of objects first, then for the first item that is no
object, and otherwise gives each element of the walk the object of its place. The keys are
distinct, since elements with one key have one object, the last of theirs. -/
theorem bound_by_position (config : Config) (e : Element κ) (styles : List Json)
    (distinct : (e.heads.map Head.key).Nodup) :
    let walk := e.walk config.overlayStem
    (∀ n m, ofStyles walk styles = .error (.mismatch n m) ↔
      walk.length ≠ styles.length ∧ n = walk.length ∧ m = styles.length) ∧
    (∀ k, ofStyles walk styles = .error (.notObject k) ↔
      walk.length = styles.length ∧ IsFirstOther styles k) ∧
    ((∃ b, ofStyles walk styles = .ok b) ↔
      walk.length = styles.length ∧ ∀ item ∈ styles, item.fields? ≠ none) ∧
    ∀ b, ofStyles walk styles = .ok b → Positioned config e styles b := by
  intro walk
  refine ⟨?_, ?_, ?_, fun b => positioned distinct⟩
  · intro n m
    rcases ofStyles_cases walk styles with
      ⟨different, refused⟩ | ⟨paired, ⟨k, -, refused⟩ | ⟨-, b, given, -⟩⟩
    · rw [refused]
      simp [different, eq_comm]
    · simp [refused, paired]
    · simp [given, paired]
  · intro k
    rcases ofStyles_cases walk styles with
      ⟨different, refused⟩ | ⟨paired, ⟨j, first, refused⟩ | ⟨objects, b, given, -⟩⟩
    · simp [refused, different]
    · rw [refused]
      constructor
      · intro same
        cases same
        exact ⟨paired, first⟩
      · rintro ⟨-, other⟩
        rw [first.unique other]
    · rw [given]
      exact ⟨nofun, fun other => absurd objects other.2.not_forall⟩
  · rcases ofStyles_cases walk styles with
      ⟨different, refused⟩ | ⟨paired, ⟨j, first, refused⟩ | ⟨objects, b, given, -⟩⟩
    · simp [refused, different]
    · simp only [refused, first.not_forall, and_false, iff_false]
      rintro ⟨b, given⟩
      cases given
    · exact ⟨fun _ => ⟨paired, objects⟩, fun _ => ⟨b, given⟩⟩

/-- A list whose second element lies in an overlay. -/
def overlaidList : Element Nat :=
  .new 0 "ul" .empty
    (.element (.new 1 "i" (.ofList [("id", "__html-picker")]))
      (.element (.new 2 "b" .empty) .nil .nil)
      (.element (.new 3 "li" .empty) .nil .nil))

theorem bound_past_overlay :
    (overlaidList.heads.map Head.key).Nodup ∧
    ∃ b, ofStyles (overlaidList.walk Config.standard.overlayStem)
        [.object [("color", .text "red")], .object [("color", .null)]] = .ok b ∧
      Positioned Config.standard overlaidList
        [.object [("color", .text "red")], .object [("color", .null)]] b := by
  have distinct : (overlaidList.heads.map Head.key).Nodup := by decide
  obtain ⟨-, -, given, positioned⟩ := bound_by_position Config.standard overlaidList
    [.object [("color", .text "red")], .object [("color", .null)]] distinct
  obtain ⟨b, bound⟩ := given.mpr ⟨by decide, by simp [Json.fields?]⟩
  exact ⟨distinct, b, bound, positioned b bound⟩

end Binding

end Clipping

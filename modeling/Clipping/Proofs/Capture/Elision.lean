import Clipping.Capture.Comparison
import Clipping.Proofs.Assoc.Entries

/-! What is left out of a comparison, and why. A value goes because its tag has it anyway,
because its parent hands it down or because it is neutral; any other value stays. Only the
display stays also where it is neutral. -/
namespace Clipping.Sieve

variable {s : Sieve} {tag : String} {values : String → String} {parent : Option (String → String)}

/-- The display that is declared after all. -/
def forced? (s : Sieve) (tag : String) (values : String → String) : Option String :=
  if s.isForced tag (values "display") then some (values "display") else none

/-- A comparison answers what is declared of a property that is compared; a display is also
forced. -/
theorem get?_compare (p : String) : (s.compare tag values parent).get? p =
    (if p ∈ s.tracked then s.declared? tag values parent p else none).or
      (if p = "display" then s.forced? tag values else none) := by
  by_cases display : p = "display"
  · subst display
    simp only [compare, Assoc.contains, Assoc.get?_ofList_filterMap]
    unfold forced?
    cases own : if "display" ∈ s.tracked then s.declared? tag values parent "display" else none with
    | some v => simp [Assoc.get?_ofList_filterMap, own]
    | none =>
      cases forced : s.isForced tag (values "display") with
      | true => simp [byPosition]
      | false => simp [Assoc.get?_ofList_filterMap, own]
  · simp only [compare]
    split
    · simp [byPosition, display, Assoc.get?_ofList_filterMap]
    · simp [Assoc.get?_ofList_filterMap]

theorem get?_compare_of_ne {p : String} (tracked : p ∈ s.tracked) (other : p ≠ "display") :
    (s.compare tag values parent).get? p = s.declared? tag values parent p := by
  simp [get?_compare, tracked, other]

theorem get?_compare_display (tracked : "display" ∈ s.tracked) :
    (s.compare tag values parent).get? "display" =
      (s.declared? tag values parent "display").or (s.forced? tag values) := by
  simp [get?_compare, tracked]

def IsNeutral (s : Sieve) (value : String) : Prop := lower value ∈ s.neutral

/-- The parent has the same value of a property that it hands down. -/
def Inherits (parent : Option (String → String)) (property value : String) : Prop :=
  property ∈ Property.text ∧ ∃ above, parent = some above ∧ above property = value

theorem isHandedDown_iff {property value : String} :
    isHandedDown parent property value = true ↔ Inherits parent property value := by
  unfold isHandedDown Inherits Property.isInherited
  cases parent with
  | none => simp
  | some above => simp

/-- A value that the tag has anyway, that the parent hands down or that is neutral. -/
def Implied (s : Sieve) (tag : String) (parent : Option (String → String)) (property value : String) :
    Prop :=
  s.IsNeutral value ∨ (s.baselines.of tag).get? property = some value ∨
    Inherits parent property value

theorem declared?_of_implied {p : String} (implied : s.Implied tag parent p (values p)) :
    s.declared? tag values parent p = none := by
  have left : ((values p).isEmpty || s.neutral.contains (lower (values p)) ||
      (s.baselines.of tag).get? p == some (values p) || isHandedDown parent p (values p)) = true := by
    rcases implied with neutral | own | inherits
    · have listed : lower (values p) ∈ s.neutral := neutral
      simp [listed]
    · simp [own]
    · simp [isHandedDown_iff.mpr inherits]
  simp only [declared?, left, if_true]

/-- Any other value is recorded, unless it is noise. -/
theorem declared?_of_stated {p : String} (written : values p ≠ "")
    (stated : ¬s.Implied tag parent p (values p)) : s.declared? tag values parent p =
      if p ∈ Property.noisy ∧ hasSubpixels (recorded p (values p)) then none
      else some (recorded p (values p)) := by
  unfold Implied IsNeutral at stated
  rw [← isHandedDown_iff] at stated
  obtain ⟨other, different, below⟩ := not_or.mp stated |>.imp_right not_or.mp
  have kept : ((values p).isEmpty || s.neutral.contains (lower (values p)) ||
      (s.baselines.of tag).get? p == some (values p) || isHandedDown parent p (values p)) = false := by
    simp [written, other, different, below]
  simp only [declared?, kept, Bool.false_eq_true, if_false, Bool.and_eq_true, List.contains_iff_mem]

/-- Nothing neutral is implied by an element's being inline or a block. -/
theorem isForced_of_neutral {display : String} (written : display ≠ "")
    (neutral : standard.IsNeutral display)
    (different : (standard.baselines.of tag).get? "display" ≠ some display) :
    standard.isForced tag display = true := by
  have apart : ∀ d ∈ Baseline.impliedDisplays, lower d ∉ Baseline.neutral := by decide +kernel
  have other : display ∉ Baseline.impliedDisplays := fun listed => apart display listed neutral
  simp [isForced, written, other, different]

theorem recorded_display (value : String) : recorded "display" value = value := by
  have plain : "display" ∉ Property.colored := by decide
  simp [recorded, plain]

theorem not_inherits_display (value : String) : ¬Inherits parent "display" value :=
  fun inherits => absurd inherits.1 (by decide)

/-- A display goes only if it is that of the tag. -/
theorem get?_compare_display_standard (written : values "display" ≠ "") :
    (standard.compare tag values parent).get? "display" =
      if (Baseline.ofTags.of tag).get? "display" = some (values "display") then none
      else some (values "display") := by
  rw [get?_compare_display (by decide)]
  split
  · next own =>
    rw [declared?_of_implied (.inr (.inl own))]
    simp [forced?, isForced, standard, own]
  · next different =>
    by_cases neutral : standard.IsNeutral (values "display")
    · rw [declared?_of_implied (.inl neutral)]
      simp [forced?, isForced_of_neutral written neutral different]
    · have stated : ¬standard.Implied tag parent "display" (values "display") := by
        rintro (same | own | inherits)
        · exact neutral same
        · exact different own
        · exact not_inherits_display _ inherits
      have quiet : "display" ∉ Property.noisy := by decide
      simp [declared?_of_stated written stated, quiet, recorded_display]

/-- The reasons for which a tracked value that is there is left out. -/
def LeftOut (tag : String) (parent : Option (String → String)) (p value : String) : Prop :=
  (Baseline.ofTags.of tag).get? p = some value ∨
    p ≠ "display" ∧ (standard.IsNeutral value ∨ Inherits parent p value)

theorem get?_compare_of_leftOut {p : String} (tracked : p ∈ Property.tracked)
    (written : values p ≠ "") (out : LeftOut tag parent p (values p)) :
    (standard.compare tag values parent).get? p = none := by
  by_cases display : p = "display"
  · subst display
    have own := out.resolve_right fun other => other.1 rfl
    rw [get?_compare_display_standard written, if_pos own]
  · rw [get?_compare_of_ne tracked display]
    refine declared?_of_implied ?_
    rcases out with own | ⟨-, neutral | inherits⟩
    · exact .inr (.inl own)
    · exact .inl neutral
    · exact .inr (.inr inherits)

theorem get?_compare_of_not_leftOut {p : String} (tracked : p ∈ Property.tracked)
    (quiet : p ∉ Property.noisy) (written : values p ≠ "")
    (stays : ¬LeftOut tag parent p (values p)) :
    (standard.compare tag values parent).get? p = some (recorded p (values p)) := by
  obtain ⟨different, other⟩ := not_or.mp stays
  by_cases display : p = "display"
  · subst display
    rw [get?_compare_display_standard written, if_neg different, recorded_display]
  · have stated : ¬standard.Implied tag parent p (values p) := by
      rintro (neutral | own | inherits)
      · exact other ⟨display, .inl neutral⟩
      · exact different own
      · exact other ⟨display, .inr inherits⟩
    rw [get?_compare_of_ne tracked display, declared?_of_stated written stated]
    simp [quiet]

/-- Why a tracked property that is there may be missing from a record. A neutral value and
one that the parent hands down go also where the tag has a value of its own, a neutral one
also where the parent's is another. -/
structure Elision (tag : String) (values : String → String) (parent : Option (String → String))
    (p : String) : Prop where
  ofTag : (standard.compare tag values parent).get? p = none → ∀ own,
    (Baseline.ofTags.of tag).get? p = some own →
      values p = own ∨ p ≠ "display" ∧ (standard.IsNeutral (values p) ∨ Inherits parent p (values p))
  ofParent : (standard.compare tag values parent).get? p = none →
    (Baseline.ofTags.of tag).get? p = none → p ∈ Property.text → ∀ above, parent = some above →
      above p ≠ "" → values p = above p ∨ standard.IsNeutral (values p)
  otherwise : (standard.compare tag values parent).get? p = none →
    (Baseline.ofTags.of tag).get? p = none →
      ¬(p ∈ Property.text ∧ ∃ above, parent = some above ∧ above p ≠ "") →
        standard.IsNeutral (values p)
  /-- These are all the reasons, and what has none of them stays as it is recorded. -/
  absent_iff : (standard.compare tag values parent).get? p = none ↔ LeftOut tag parent p (values p)
  stays : ¬LeftOut tag parent p (values p) →
    (standard.compare tag values parent).get? p = some (recorded p (values p))

/-- Nothing that says something is left out of a record, for any tag and parent. -/
theorem elision_standard (tag : String) (values : String → String)
    (parent : Option (String → String)) (p : String) (tracked : p ∈ Property.tracked)
    (quiet : p ∉ Property.noisy) (written : values p ≠ "") : Elision tag values parent p := by
  have stays (stated : ¬LeftOut tag parent p (values p)) :
      (standard.compare tag values parent).get? p = some (recorded p (values p)) :=
    get?_compare_of_not_leftOut tracked quiet written stated
  have absent_iff : (standard.compare tag values parent).get? p = none ↔
      LeftOut tag parent p (values p) := by
    constructor
    · intro absent
      refine Classical.byContradiction fun stated => ?_
      rw [stays stated] at absent
      contradiction
    · exact get?_compare_of_leftOut tracked written
  refine ⟨?_, ?_, ?_, absent_iff, stays⟩
  · intro absent own defined
    rcases absent_iff.mp absent with same | other
    · rw [defined] at same
      exact .inl (Option.some.inj same).symm
    · exact .inr other
  · intro absent undefined text above below nonempty
    rcases absent_iff.mp absent with same | ⟨-, neutral | ⟨-, other, found, same⟩⟩
    · rw [undefined] at same
      contradiction
    · exact .inr neutral
    · rw [below] at found
      obtain rfl := Option.some.inj found
      exact .inl same.symm
  · intro absent undefined alone
    rcases absent_iff.mp absent with same | ⟨-, neutral | ⟨text, above, found, same⟩⟩
    · rw [undefined] at same
      contradiction
    · exact neutral
    · exact absurd ⟨text, above, found, same ▸ written⟩ alone

theorem elision_of_link :
    "cursor" ∈ Property.tracked ∧ "cursor" ∉ Property.noisy ∧ "auto" ≠ "" ∧
    Elision "a" (fun _ => "auto") none "cursor" :=
  ⟨by decide, by decide, by decide,
    elision_standard "a" (fun _ => "auto") none "cursor" (by decide) (by decide) (by decide)⟩

/-- A link without its line, a heading in the size of its parent and an upright word in
italics say something, and yet it is left out. -/
theorem override_left_out :
    ((Baseline.ofTags.of "a").get? "text-decoration" = some "underline" ∧
      (standard.compare "a" (fun p => if p = "text-decoration" then "none" else "") none).get?
        "text-decoration" = none) ∧
    ((Baseline.ofTags.of "h1").get? "font-size" = some "32px" ∧
      (standard.compare "h1" (fun p => if p = "font-size" then "16px" else "")
        (some fun p => if p = "font-size" then "16px" else "")).get? "font-size" = none) ∧
    ((Baseline.ofTags.of "span").get? "font-style" = none ∧ "font-style" ∈ Property.text ∧
      (standard.compare "span" (fun p => if p = "font-style" then "normal" else "")
        (some fun p => if p = "font-style" then "italic" else "")).get? "font-style" = none) := by
  decide +kernel

end Clipping.Sieve

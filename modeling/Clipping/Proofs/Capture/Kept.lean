import Clipping.Proofs.Capture.Elision
import Clipping.Proofs.Color.Hexadecimal
import Clipping.Proofs.Text.Lowered
import Mathlib.Data.List.Basic

/-! What a comparison keeps. A value says something after it was rewritten as it did before: a
colour in hexadecimal is neither neutral nor the own value of a tag. So all that a comparison
keeps is kept when it is compared again. -/
namespace Clipping.Sieve

open Text

variable {tag : String} {values : String → String} {parent : Option (String → String)}

/-! Sizes. -/

/-- The value ends in a point, three digits or more, and the unit; a line feed may follow. -/
def EndsInSubpixels (value : String) : Prop :=
  ∃ before places last, value.toList = before ++ '.' :: (places ++ 'p' :: 'x' :: last) ∧
    3 ≤ places.length ∧ (∀ c ∈ places, isDecimal c = true) ∧ (last = [] ∨ last = ['\n'])

theorem hasSubpixels_of_ends {value : String} (ends : EndsInSubpixels value) :
    hasSubpixels value = true := by
  obtain ⟨before, places, last, chars, enough, digits, end'⟩ := ends
  have backwards : value.toList.reverse =
      last.reverse ++ 'x' :: 'p' :: (places.reverse ++ '.' :: before.reverse) := by
    rw [chars]
    simp
  have figures : ∀ c ∈ places.reverse, isDecimal c = true := fun c member =>
    digits c (List.mem_reverse.mp member)
  have point : isDecimal '.' = false := by decide
  have mark : ∀ c ∈ ('.' :: before.reverse).head?, isDecimal c = false := by simp [point]
  obtain ⟨taken, dropped⟩ := span_at_mark figures mark
  rcases end' with rfl | rfl
  · simp [hasSubpixels, backwards, taken, dropped, enough]
  · simp [hasSubpixels, backwards, taken, dropped, enough]

/-! Colours. -/

/-- The hexadecimal notation starts with its mark. -/
theorem head_rgbHex {value hex : String} (found : Color.rgbHex? value = some hex) :
    hex.toList.head? = some '#' := by
  obtain ⟨digits, chars, -⟩ := Color.isCanonical_rgbHex found
  rw [chars]
  rfl

/-- A value is recorded as it is, or in hexadecimal. -/
theorem recorded_cases (p value : String) : recorded p value = value ∨
    p ∈ Property.colored ∧ Color.isRgb value.toList = true ∧
      Color.rgbHex? value = some (recorded p value) := by
  unfold recorded
  split
  · next both =>
    simp only [Bool.and_eq_true, List.contains_iff_mem] at both
    cases found : Color.rgbHex? value with
    | none => exact .inl rfl
    | some hex => exact .inr ⟨both.1, both.2, rfl⟩
  · exact .inl rfl

theorem not_isNeutral_of_mark {value : String} (marked : value.toList.head? = some '#') :
    ¬standard.IsNeutral value := by
  have unmarked : ∀ word ∈ Baseline.neutral, word.toList.head? ≠ some '#' := by decide
  intro neutral
  refine unmarked _ neutral ?_
  obtain ⟨rest, chars⟩ := List.head?_eq_some_iff.mp marked
  obtain ⟨first, low, parts, -, -, ascii⟩ := lowerAfter_cons [] '#' rest
  rw [lower, String.toList_ofList, chars, parts, ascii (by decide)]
  rfl

theorem own_unmarked {p own : String} (defined : (Baseline.ofTags.of tag).get? p = some own) :
    own.toList.head? ≠ some '#' := by
  have unmarked : ∀ entry ∈ Baseline.ofTags, ∀ default ∈ entry.2.entries,
      default.2.toList.head? ≠ some '#' := by decide
  unfold Baseline.Table.of at defined
  cases found : Baseline.ofTags.lookup tag with
  | none => simp [found] at defined
  | some defaults =>
    rw [found] at defined
    obtain ⟨before, after, parts, -⟩ := List.lookup_eq_some_iff.mp found
    exact unmarked (tag, defaults) (by simp [parts]) (p, own) (Assoc.get?_eq_some_iff.mp defined)

theorem recorded_of_mark {value : String} (marked : value.toList.head? = some '#') (p : String) :
    recorded p value = value := by
  obtain ⟨rest, chars⟩ := List.head?_eq_some_iff.mp marked
  have other : Color.isRgb value.toList = false := by
    rw [chars, Color.isRgb, List.take_succ_cons, List.map_cons]
    rfl
  simp [recorded, other]

@[simp] theorem recorded_recorded (p value : String) :
    recorded p (recorded p value) = recorded p value := by
  rcases recorded_cases p value with same | ⟨-, -, found⟩
  · rw [same, same]
  · exact recorded_of_mark (head_rgbHex found) p

theorem recorded_ne_empty {value : String} (written : value ≠ "") (p : String) :
    recorded p value ≠ "" := by
  rcases recorded_cases p value with same | ⟨-, -, found⟩
  · rwa [same]
  · intro empty
    have marked := head_rgbHex found
    rw [empty] at marked
    cases marked

/-- What is not implied is not implied in hexadecimal either. -/
theorem not_implied_recorded {p value : String} (stated : ¬standard.Implied tag parent p value) :
    ¬standard.Implied tag none p (recorded p value) := by
  obtain ⟨other, different, -⟩ := not_or.mp stated |>.imp_right not_or.mp
  rintro (neutral | own | ⟨-, above, alone, -⟩)
  · rcases recorded_cases p value with same | ⟨-, -, found⟩
    · exact other (same ▸ neutral)
    · exact not_isNeutral_of_mark (head_rgbHex found) neutral
  · rcases recorded_cases p value with same | ⟨-, -, found⟩
    · exact different (own.trans (congrArg some same))
    · exact own_unmarked own (head_rgbHex found)
  · cases alone

/-! Declarations. -/

theorem declared?_of_empty (s : Sieve) {p : String} (empty : values p = "") :
    s.declared? tag values parent p = none := by
  simp [declared?, empty]

/-- What is declared was written and is not implied, and it is no noise. -/
theorem declared?_eq_some {s : Sieve} {p w : String} (declared : s.declared? tag values parent p = some w) :
    w = recorded p (values p) ∧ values p ≠ "" ∧ ¬s.Implied tag parent p (values p) ∧
      ¬(p ∈ Property.noisy ∧ hasSubpixels w = true) := by
  have written : values p ≠ "" := by
    intro empty
    rw [declared?_of_empty s empty] at declared
    cases declared
  have stated : ¬s.Implied tag parent p (values p) := by
    intro implied
    rw [declared?_of_implied implied] at declared
    cases declared
  rw [declared?_of_stated written stated] at declared
  split at declared
  · cases declared
  · next quiet =>
    obtain rfl := Option.some.inj declared
    exact ⟨rfl, written, stated, quiet⟩

/-- The value of a property says something: it is not the tag's own, it is neutral under a display
at most, and no size has subpixels. -/
structure Telling (tag property value : String) : Prop where
  written : value ≠ ""
  different : (Baseline.ofTags.of tag).get? property ≠ some value
  stated : property ≠ "display" → ¬standard.IsNeutral value
  coarse : property ∈ Property.noisy → ¬EndsInSubpixels value

theorem telling_of_declared {p w : String} (declared : standard.declared? tag values parent p = some w) :
    Telling tag p w := by
  obtain ⟨rfl, written, stated, quiet⟩ := declared?_eq_some declared
  have other := not_implied_recorded stated
  exact
    { written := recorded_ne_empty written p
      different := fun own => other (.inr (.inl own))
      stated := fun _ neutral => other (.inl neutral)
      coarse := fun noisy ends => quiet ⟨noisy, hasSubpixels_of_ends ends⟩ }

theorem forced?_eq_some {s : Sieve} {display : String} (forced : s.forced? tag values = some display) :
    values "display" = display ∧ s.isForced tag display = true := by
  unfold forced? at forced
  split at forced
  · next own =>
    obtain rfl := Option.some.inj forced
    exact ⟨rfl, own⟩
  · cases forced

theorem telling_of_forced {display : String} (forced : standard.isForced tag display = true) :
    Telling tag "display" display := by
  simp only [isForced, Bool.and_eq_true, Bool.not_eq_true', String.isEmpty_eq_false_iff,
    bne_iff_ne] at forced
  exact
    { written := forced.1.1
      different := forced.2
      stated := fun other => absurd rfl other
      coarse := fun noisy => absurd noisy (by decide) }

/-- Every declaration of a comparison says something, also where its value was rewritten after it
was looked at, and where a display was put back. -/
theorem compare_telling (tag : String) (values : String → String) (parent : Option (String → String)) :
    ∀ entry ∈ (standard.compare tag values parent).entries, Telling tag entry.1 entry.2 := by
  intro ⟨p, w⟩ member
  have found := Assoc.get?_eq_some_iff.mpr member
  rw [get?_compare, Option.or_eq_some_iff] at found
  rcases found with declared | ⟨-, forced⟩
  · split at declared
    · exact telling_of_declared declared
    · cases declared
  · split at forced
    · next display =>
      subst display
      obtain ⟨-, own⟩ := forced?_eq_some forced
      exact telling_of_forced own
    · cases forced

def hiddenLink (p : String) : String :=
  if p = "color" then "rgb(0,0,238)" else if p = "display" then "none" else ""

theorem hiddenLink_telling :
    ("color", "#0000ee") ∈ (standard.compare "a" hiddenLink none).entries ∧
    ("display", "none") ∈ (standard.compare "a" hiddenLink none).entries ∧
    Telling "a" "color" "#0000ee" ∧ Telling "a" "display" "none" := by
  have color : ("color", "#0000ee") ∈ (standard.compare "a" hiddenLink none).entries :=
    Assoc.get?_eq_some_iff.mp (by rw [get?_compare]; decide +kernel)
  have display : ("display", "none") ∈ (standard.compare "a" hiddenLink none).entries :=
    Assoc.get?_eq_some_iff.mp (by rw [get?_compare]; decide +kernel)
  exact ⟨color, display, compare_telling _ _ _ _ color, compare_telling _ _ _ _ display⟩

/-! Comparing again. -/

/-- What is declared of a value is declared of itself. -/
theorem declared?_of_declared {other : String → String} {p w : String}
    (declared : standard.declared? tag values parent p = some w) (kept : other p = w) :
    standard.declared? tag other none p = some w := by
  obtain ⟨rfl, written, stated, quiet⟩ := declared?_eq_some declared
  rw [declared?_of_stated (kept ▸ recorded_ne_empty written p) (kept ▸ not_implied_recorded stated), kept,
    recorded_recorded, if_neg quiet]

/-- A display that was put back is neutral. -/
theorem isNeutral_of_forced {display : String} (forced : standard.forced? tag values = some display)
    (left : standard.declared? tag values parent "display" = none) : standard.IsNeutral display := by
  obtain ⟨rfl, own⟩ := forced?_eq_some forced
  have telling := telling_of_forced own
  refine Classical.byContradiction fun other => ?_
  have stated : ¬standard.Implied tag parent "display" (values "display") := by
    rintro (neutral | own | inherits)
    · exact other neutral
    · exact telling.different own
    · exact not_inherits_display _ inherits
  have quiet : "display" ∉ Property.noisy := by decide
  simp [declared?_of_stated telling.written stated, quiet] at left

/-- What was kept is declared again, and nothing else. -/
theorem declared?_compare {p : String} (tracked : p ∈ Property.tracked) :
    standard.declared? tag (standard.compare tag values parent).value none p =
      standard.declared? tag values parent p := by
  have answer : (standard.compare tag values parent).get? p =
      (standard.declared? tag values parent p).or
        (if p = "display" then standard.forced? tag values else none) := by
    rw [get?_compare, if_pos (show p ∈ standard.tracked from tracked)]
  cases declared : standard.declared? tag values parent p with
  | some w =>
    refine declared?_of_declared declared ?_
    rw [Assoc.value, answer, declared]
    rfl
  | none =>
    rw [declared, Option.none_or] at answer
    cases forced : if p = "display" then standard.forced? tag values else none with
    | none =>
      refine declared?_of_empty standard ?_
      rw [Assoc.value, answer, forced]
      rfl
    | some display =>
      rw [forced] at answer
      split at forced
      · next same =>
        subst same
        refine declared?_of_implied (.inl ?_)
        rw [Assoc.value, answer]
        exact isNeutral_of_forced forced declared
      · cases forced

/-- A display that was put back is put back again. -/
theorem forced?_compare (left : standard.declared? tag values parent "display" = none) :
    standard.forced? tag (standard.compare tag values parent).value = standard.forced? tag values := by
  have answer : (standard.compare tag values parent).get? "display" = standard.forced? tag values := by
    rw [get?_compare_display (by decide), left, Option.none_or]
  cases forced : standard.forced? tag values with
  | some display =>
    have value : (standard.compare tag values parent).value "display" = display := by
      rw [Assoc.value, answer, forced]
      rfl
    rw [forced?, value, if_pos (forced?_eq_some forced).2]
  | none =>
    have value : (standard.compare tag values parent).value "display" = "" := by
      rw [Assoc.value, answer, forced]
      rfl
    simp [forced?, value, isForced]

def kept (s : Sieve) (tag : String) (values : String → String) (parent : Option (String → String)) :
    Declarations :=
  .ofList (s.tracked.filterMap fun p => (s.declared? tag values parent p).map (p, ·))

theorem compare_eq (s : Sieve) : s.compare tag values parent =
    if (s.kept tag values parent).contains "display" then s.kept tag values parent
    else match s.forced? tag values with
      | some display => byPosition ((s.kept tag values parent).set "display" display)
      | none => s.kept tag values parent := by
  unfold forced?
  show (if !(s.kept tag values parent).contains "display" && s.isForced tag (values "display") then
    byPosition ((s.kept tag values parent).set "display" (values "display"))
    else s.kept tag values parent) = _
  cases (s.kept tag values parent).contains "display" with
  | true => rfl
  | false =>
    cases s.isForced tag (values "display") with
    | true => rfl
    | false => rfl

theorem contains_kept {s : Sieve} {p : String} (shown : p ∈ s.tracked) :
    (s.kept tag values parent).contains p = (s.declared? tag values parent p).isSome := by
  rw [Assoc.contains, kept, Assoc.get?_ofList_filterMap, if_pos shown]

theorem contains_kept_display : (standard.kept tag values parent).contains "display" =
    (standard.declared? tag values parent "display").isSome :=
  contains_kept (by decide)

/-- To compare what a comparison kept, for the same tag and below no parent, changes nothing. -/
theorem compare_compare (tag : String) (values : String → String) (parent : Option (String → String)) :
    standard.compare tag (standard.compare tag values parent).value none =
      standard.compare tag values parent := by
  have same : standard.kept tag (standard.compare tag values parent).value none =
      standard.kept tag values parent :=
    congrArg Assoc.ofList (List.filterMap_congr fun p tracked => by rw [declared?_compare tracked])
  rw [compare_eq, same, @compare_eq tag values]
  split
  · rfl
  · next absent =>
    rw [contains_kept_display, Bool.not_eq_true, Option.isSome_eq_false_iff, Option.isNone_iff_eq_none] at absent
    have again := forced?_compare absent
    rw [compare_eq, if_neg (by rw [contains_kept_display, absent]; decide)] at again
    rw [again]

end Clipping.Sieve

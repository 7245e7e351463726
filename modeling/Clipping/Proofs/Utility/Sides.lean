import Clipping.Proofs.Config.Naming
import Clipping.Proofs.Utility.Composition
import Clipping.Proofs.Utility.Speaking

/-! What the rule of a box says. It speaks of its sides if one is declared, and then of
those that are not zero; otherwise it always speaks of the shorthand. -/
namespace Clipping

open Utility Output

namespace Scale

/-- A key of steps is a half step, a whole step up to the limit, or the pixels in brackets. -/
theorem stepKey_cases (limit : Int) (amount steps : Finite) :
    stepKey limit amount steps ∈ ["0.5", "1.5", "2.5", "3.5"] ∨
    (∃ n : Nat, 1 ≤ n ∧ (n : Int) ≤ limit ∧ stepKey limit amount steps = toString (n : Int)) ∨
    stepKey limit amount steps = "[" ++ Length.finiteText amount ++ "]" := by
  unfold stepKey
  simp only
  split
  · exact .inl (by decide)
  · split
    · exact .inl (by decide)
    · split
      · exact .inl (by decide)
      · split
        · exact .inl (by decide)
        · split
          · next n _ =>
            split
            · next inside =>
              obtain ⟨m, rfl⟩ := Int.eq_ofNat_of_zero_le (by omega : 0 ≤ n)
              exact .inr (.inl ⟨m, by omega, inside.2, rfl⟩)
            · exact .inr (.inr rfl)
          · exact .inr (.inr rfl)

theorem stepKey_ne (limit : Int) (amount steps : Finite) :
    stepKey limit amount steps ≠ "0" ∧ stepKey limit amount steps ≠ "" := by
  rcases stepKey_cases limit amount steps with half | ⟨n, positive, -, whole⟩ | pixels
  · have named : ∀ key ∈ ["0.5", "1.5", "2.5", "3.5"], key ≠ "0" ∧ key ≠ "" := by decide
    exact named _ half
  · rw [whole]
    constructor
    · intro same
      have digits := congrArg String.toList same
      rw [toList_toString] at digits
      have zero : n = 0 := toDigits_injective (digits.trans (by decide))
      omega
    · intro same
      have digits := congrArg String.toList same
      rw [toList_toString] at digits
      exact Nat.toDigits_ne_nil digits
  · rw [pixels]
    constructor
    · intro same
      have characters := congrArg String.toList same
      simp at characters
    · simp

theorem key_standard_of_zero {x : Finite} (zero : x.value = 0) : standard.key (.finite x) = .ok "0" := by
  simp [key, zero]

/-- Only zero is called so, and every key is a text. -/
theorem key_standard_of_ne_zero {x : Finite} (nonzero : x.value ≠ 0) {k : String}
    (named : standard.key (.finite x) = .ok k) : k ≠ "0" ∧ k ≠ "" := by
  simp only [key, nonzero, if_false] at named
  split at named
  · cases named
    decide
  · split at named
    · cases named
    · cases named
      exact stepKey_ne _ _ _
    · cases named
    · cases named

/-- A key is a name of the scale, a whole step, or the pixels in brackets. -/
theorem key_standard_cases {x : Finite} {k : String} (named : standard.key (.finite x) = .ok k) :
    k ∈ ["0", "px", "0.5", "1.5", "2.5", "3.5"] ∨ (∃ n : Nat, k = toString (n : Int)) ∨
      k = "[" ++ Length.finiteText x ++ "]" := by
  simp only [key] at named
  split at named
  · cases named
    exact .inl (by decide)
  · split at named
    · cases named
      exact .inl (by decide)
    · split at named
      · cases named
      · cases named
        rcases stepKey_cases standard.limit x _ with half | ⟨n, -, -, whole⟩ | pixels
        · exact .inl (List.mem_cons_of_mem _ (List.mem_cons_of_mem _ half))
        · exact .inr (.inl ⟨n, whole⟩)
        · exact .inr (.inr pixels)
      · cases named
      · cases named

theorem key?_eq_some_iff {value key : String} : key? value = some key ↔
    ∃ x, Length.pixels? value = some x ∧ standard.key (.finite x) = .ok key := by
  unfold key?
  rw [Option.bind_eq_some_iff]
  refine exists_congr fun x => and_congr_right fun _ => ?_
  cases standard.key (.finite x) with
  | error fault => simp [Except.toOption]
  | ok own => simp [Except.toOption]

end Scale

namespace Utility

/-- The length is zero pixels, with the unit or without it. -/
def IsZero (value : String) : Prop := ∃ x, Length.pixels? value = some x ∧ x.value = 0

theorem lengthKey_of_zero {value : String} (zero : IsZero value) : lengthKey value = "0" := by
  obtain ⟨x, read, zero⟩ := zero
  have named := Scale.key?_eq_some_iff.mpr ⟨x, read, Scale.key_standard_of_zero zero⟩
  simp [lengthKey, named]

theorem lengthKey_of_ne_zero {value : String} (nonzero : ¬IsZero value) :
    lengthKey value ≠ "0" ∧ lengthKey value ≠ "" := by
  unfold lengthKey
  cases found : Scale.key? value with
  | some key =>
    obtain ⟨x, read, named⟩ := Scale.key?_eq_some_iff.mp found
    exact Scale.key_standard_of_ne_zero (fun zero => nonzero ⟨x, read, zero⟩) named
  | none =>
    constructor
    · intro same
      have characters := congrArg String.toList same
      simp [Literal.bracketed] at characters
    · simp [Literal.bracketed]

/-- A side has a key unless it is zero. -/
theorem isSet_sideKey? {value : String} : isSet (sideKey? value) = true ↔ ¬IsZero value := by
  by_cases zero : IsZero value
  · simp [sideKey?, lengthKey_of_zero zero, isSet, zero]
  · obtain ⟨other, written⟩ := lengthKey_of_ne_zero zero
    simp [sideKey?, other, isSet, written, zero]

theorem isSet_iff {key : Option String} : isSet key = true ↔ ∃ k, key = some k ∧ k ≠ "" := by
  cases key with
  | none => simp [isSet]
  | some k => simp [isSet]

/-- One axis of a box: one token where its sides agree, else one for each. -/
def axisTokens (both first second : String) (a b : Option String) : List String :=
  if a = b then sideTokens both a else sideTokens first a ++ sideTokens second b

section

variable {stem t k : String} {key a b top right bottom left : Option String}

theorem consolidate_eq (stem : String) (top right bottom left : Option String) :
    consolidate stem top right bottom left =
      if isSet top ∧ top = right ∧ right = bottom ∧ bottom = left then sideTokens stem top
      else axisTokens (stem ++ "y") (stem ++ "t") (stem ++ "b") top bottom ++
        axisTokens (stem ++ "x") (stem ++ "r") (stem ++ "l") right left :=
  rfl

theorem mem_sideTokens : t ∈ sideTokens stem key ↔ ∃ k, key = some k ∧ k ≠ "" ∧ t = stem ++ "-" ++ k := by
  cases key with
  | none => simp [sideTokens]
  | some k =>
    by_cases empty : k = ""
    · simp [sideTokens, empty]
    · simp [sideTokens, empty]

theorem mem_axisTokens {both first second : String}
    (member : t ∈ axisTokens (stem ++ both) (stem ++ first) (stem ++ second) a b) :
    ∃ letter ∈ [both, first, second], ∃ k, some k ∈ [a, b] ∧ k ≠ "" ∧ t = stem ++ letter ++ "-" ++ k := by
  unfold axisTokens at member
  split at member
  · obtain ⟨k, rfl, own⟩ := mem_sideTokens.mp member
    exact ⟨both, by simp, k, by simp, own⟩
  · rcases List.mem_append.mp member with member | member
    · obtain ⟨k, rfl, own⟩ := mem_sideTokens.mp member
      exact ⟨first, by simp, k, by simp, own⟩
    · obtain ⟨k, rfl, own⟩ := mem_sideTokens.mp member
      exact ⟨second, by simp, k, by simp, own⟩

theorem exists_mem_axisTokens (both first second : String) (listed : some k ∈ [a, b]) (written : k ≠ "") :
    ∃ letter ∈ [both, first, second],
      stem ++ letter ++ "-" ++ k ∈ axisTokens (stem ++ both) (stem ++ first) (stem ++ second) a b := by
  have token (letter : String) {key : Option String} (own : some k = key) :
      stem ++ letter ++ "-" ++ k ∈ sideTokens (stem ++ letter) key :=
    mem_sideTokens.mpr ⟨k, own.symm, written, rfl⟩
  simp only [List.mem_cons, List.not_mem_nil, or_false] at listed
  unfold axisTokens
  split
  · next same => exact ⟨both, by simp, token both (listed.elim id fun last => last.trans same.symm)⟩
  · rcases listed with start | finish
    · exact ⟨first, by simp, List.mem_append_left _ (token first start)⟩
    · exact ⟨second, by simp, List.mem_append_right _ (token second finish)⟩

/-- What stands between the stem of a box and a key: the letter of an axis or a side, or nothing. -/
def sideLetters : List String := ["", "y", "t", "b", "x", "r", "l"]

/-- Every token of four sides is of a key of theirs. -/
theorem mem_consolidate (member : t ∈ consolidate stem top right bottom left) :
    ∃ letter ∈ sideLetters, ∃ k, some k ∈ [top, right, bottom, left] ∧ k ≠ "" ∧
      t = stem ++ letter ++ "-" ++ k := by
  have vertical : ["y", "t", "b"] ⊆ sideLetters := by decide
  have horizontal : ["x", "r", "l"] ⊆ sideLetters := by decide
  rw [consolidate_eq] at member
  split at member
  · obtain ⟨k, rfl, own⟩ := mem_sideTokens.mp member
    exact ⟨"", by decide, k, by simp, by simpa using own⟩
  · rcases List.mem_append.mp member with member | member
    · obtain ⟨letter, named, k, listed, own⟩ := mem_axisTokens member
      exact ⟨letter, vertical named, k, List.Sublist.subset (by simp) listed, own⟩
    · obtain ⟨letter, named, k, listed, own⟩ := mem_axisTokens member
      exact ⟨letter, horizontal named, k, List.Sublist.subset (by simp) listed, own⟩

/-- Every key of the four sides has a token. -/
theorem exists_mem_consolidate (listed : some k ∈ [top, right, bottom, left]) (written : k ≠ "") :
    ∃ letter ∈ sideLetters, stem ++ letter ++ "-" ++ k ∈ consolidate stem top right bottom left := by
  have vertical : ["y", "t", "b"] ⊆ sideLetters := by decide
  have horizontal : ["x", "r", "l"] ⊆ sideLetters := by decide
  rw [consolidate_eq]
  split
  · next all =>
    obtain ⟨-, rfl, rfl, rfl⟩ := all
    have own : top = some k := by simpa [eq_comm] using listed
    exact ⟨"", by decide, mem_sideTokens.mpr ⟨k, own, written, by simp⟩⟩
  · have axis : some k ∈ [top, bottom] ∨ some k ∈ [right, left] := by
      simp only [List.mem_cons, List.not_mem_nil, or_false] at listed ⊢
      rcases listed with top | right | bottom | left
      · exact .inl (.inl top)
      · exact .inr (.inl right)
      · exact .inl (.inr bottom)
      · exact .inr (.inr left)
    rcases axis with listed | listed
    · obtain ⟨letter, named, member⟩ := exists_mem_axisTokens "y" "t" "b" listed written
      exact ⟨letter, vertical named, List.mem_append_left _ member⟩
    · obtain ⟨letter, named, member⟩ := exists_mem_axisTokens "x" "r" "l" listed written
      exact ⟨letter, horizontal named, List.mem_append_right _ member⟩

theorem ne_empty_of_mem_consolidate (member : t ∈ consolidate stem top right bottom left) : t ≠ "" := by
  obtain ⟨letter, -, k, -, -, rfl⟩ := mem_consolidate member
  simp

/-- The tokens of the sides are none only where no side is set. -/
theorem consolidate_eq_nil_iff : consolidate stem top right bottom left = [] ↔
    ∀ key ∈ [top, right, bottom, left], isSet key = false := by
  rw [List.eq_nil_iff_forall_not_mem]
  constructor
  · intro none key listed
    refine Bool.eq_false_iff.mpr fun set => ?_
    obtain ⟨k, rfl, written⟩ := isSet_iff.mp set
    obtain ⟨letter, -, member⟩ := exists_mem_consolidate listed written
    exact none _ member
  · intro unset t member
    obtain ⟨letter, -, k, listed, written, -⟩ := mem_consolidate member
    exact Bool.eq_false_iff.mp (unset _ listed) (isSet_iff.mpr ⟨k, rfl, written⟩)

theorem emitted_consolidate (stem : String) (top right bottom left : Option String) :
    (join ((consolidate stem top right bottom left).map token)).emitted = consolidate stem top right bottom left :=
  emitted_tokens fun _ member => ne_empty_of_mem_consolidate member

end

theorem speaks_consolidate {stem : String} {top right bottom left : Option String} :
    (join ((consolidate stem top right bottom left).map .token)).Speaks ↔
      ∃ key ∈ [top, right, bottom, left], isSet key = true := by
  rw [Speaks, emitted_consolidate, ne_eq, consolidate_eq_nil_iff]
  simp only [← Bool.not_eq_true, not_forall, not_not, exists_prop]

theorem emitted_declared_keyNote (d : Declarations) (property : String) :
    (declared d property fun v => keyNote property v).emitted = [] := by
  unfold declared
  split
  · rfl
  · rfl

theorem speaks_boxRule (shorthand stem : String) (d : Declarations) :
    ((boxRule shorthand stem).emit d).Speaks ↔
      if sides.any fun side => isSet (d.get? (shorthand ++ "-" ++ side)) then
        ∃ side ∈ sides, ∃ v, d.get? (shorthand ++ "-" ++ side) = some v ∧ ¬IsZero v
      else ∃ v, d.get? shorthand = some v := by
  have side (name : String) : isSet ((d.get? name).bind sideKey?) = true ↔
      ∃ v, d.get? name = some v ∧ ¬IsZero v := by
    cases d.get? name with
    | none => simp [isSet]
    | some v => simp [isSet_sideKey?]
  simp only [boxRule]
  split
  · next set =>
    simp only [speaks_append, speaks_consolidate]
    simp [sides, speaks_declared, side]
  · next unset =>
    refine speaks_reading fun v => ?_
    split
    · simp
    · next parts =>
      split
      · next any =>
        simp only [speaks_append, speaks_consolidate]
        exact .inr (by simpa using any)
      · simp

theorem get?_single (property v name : String) :
    (Assoc.ofList [(property, v)]).get? name = if name = property then some v else none := by
  simp [Assoc.ofList]

theorem side_ne_shorthand (shorthand side : String) : shorthand ++ "-" ++ side ≠ shorthand := by
  intro same
  have characters := congrArg String.toList same
  simp at characters

/-- Alone, the shorthand always speaks and a side does unless it is zero. -/
theorem speaks_boxRule_single {shorthand stem property v : String}
    (member : property ∈ (boxRule shorthand stem).properties) (written : v ≠ "") :
    ((boxRule shorthand stem).emit (.ofList [(property, v)])).Speaks ↔
      property = shorthand ∨ ¬IsZero v := by
  have apart := side_ne_shorthand shorthand
  rw [speaks_boxRule]
  simp only [get?_single]
  rcases List.mem_cons.mp member with rfl | member
  · simp [apart, isSet]
  · obtain ⟨side, listed, rfl⟩ := List.mem_map.mp member
    have set : (sides.any fun other => isSet (if shorthand ++ "-" ++ other = shorthand ++ "-" ++ side
        then some v else none)) = true :=
      List.any_eq_true.mpr ⟨side, listed, by simp [isSet, written]⟩
    rw [if_pos set]
    simp only [apart, false_or]
    constructor
    · rintro ⟨other, -, w, found, nonzero⟩
      split at found
      · cases found
        exact nonzero
      · contradiction
    · intro nonzero
      exact ⟨side, listed, v, by simp, nonzero⟩

end Utility

end Clipping

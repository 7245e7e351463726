import Clipping.Length
import Clipping.Proofs.Number.Rounding
import Clipping.Proofs.Text.Lowered
import Clipping.Proofs.Text.Trimmed
import Clipping.Proofs.Text.Unbroken
import Mathlib.Data.List.TakeWhile

/-! Which texts are read as numbers, and as which. What is read is within the range unless it is
infinite; a numeral of digits is always read, and no text of digits and points is undefined. -/
namespace Clipping

open Text

namespace Decimal

open Binary64 (Ranged)

theorem ranged_number (negative : Bool) (digits : List Char) (e : Int) :
    Ranged negative (number negative digits e) := by
  have zero : Ranged negative (.finite (.zero negative)) := .finite rfl (Finite.isWithin_zero negative)
  unfold number
  simp only
  split
  · exact zero
  · split
    · exact .infinite
    · split
      · exact zero
      · split
        · exact Binary64.ranged_ofRatio negative _ Nat.one_pos
        · exact Binary64.ranged_ofRatio negative _ (Nat.pow_pos (by omega))

theorem ranged_of_unsigned {negative : Bool} {s : List Char} {x : Binary64}
    (found : unsigned? negative s = some x) : Ranged negative x := by
  have scaled {none : Bool} {exponent : Option Int} {digits : List Char} {places : Int}
      (found : (if none then Option.none else exponent.map fun e => number negative digits (e - places)) = some x) :
      Ranged negative x := by
    split at found
    · cases found
    · obtain ⟨e, -, rfl⟩ := Option.map_eq_some_iff.mp found
      exact ranged_number negative _ _
  unfold unsigned? at found
  simp only at found
  split at found
  · exact scaled found
  · exact scaled found

/-- Either the text is the word for an undefined number, or what is read has the sign of the text. -/
theorem read_cases {s : List Char} {x : Binary64} (found : read? s = some x) :
    (x = .nan ∧ (signed (trimSpace s)).2.map Char.toLower = ['n', 'a', 'n']) ∨ Ranged (signed (trimSpace s)).1 x := by
  unfold read? at found
  simp only at found
  split at found
  · cases found
    exact .inr .infinite
  · cases found
    exact .inr .infinite
  · next word =>
    cases found
    refine .inl ⟨rfl, ?_⟩
    rw [← String.toList_ofList (l := (signed (trimSpace s)).2.map Char.toLower), word]
    rfl
  · obtain ⟨digits, -, unsigned⟩ := Option.bind_eq_some_iff.mp found
    exact .inr (ranged_of_unsigned unsigned)

theorem isWithin_of_read {s : List Char} {x : Finite} (found : read? s = some (.finite x)) : x.IsWithin := by
  rcases read_cases found with ⟨undefined, -⟩ | ranged
  · cases undefined
  · exact ranged.within

/-- What numerals are made of: decimal digits and points. -/
def IsFigure (c : Char) : Prop := isDecimal c = true ∨ c = '.'

theorem isBlank_of_isFigure {c : Char} (figure : IsFigure c) : isBlank c = false := by
  rcases figure with digit | rfl
  · exact isBlank_of_isDecimal digit
  · rfl

theorem IsFigure.ne {c d : Char} (figure : IsFigure c) (digit : isDecimal d = false) (point : d ≠ '.') :
    c ≠ d := by
  rcases figure with own | rfl
  · exact ne_of_isDecimal own digit
  · exact point.symm

theorem signed_of_figures {s : List Char} (figures : ∀ c ∈ s, IsFigure c) : signed s = (false, s) := by
  cases s with
  | nil => rfl
  | cons c s =>
    have figure := figures c List.mem_cons_self
    unfold signed
    split
    · next same => exact absurd (List.cons.inj same).1 (figure.ne (by decide) (by decide))
    · next same => exact absurd (List.cons.inj same).1 (figure.ne (by decide) (by decide))
    · rfl

theorem joined_of_figures {s : List Char} (figures : ∀ c ∈ s, IsFigure c) (afterDigit : Bool) :
    joined? afterDigit s = some s := by
  induction s generalizing afterDigit with
  | nil => rfl
  | cons c s ih =>
    obtain ⟨figure, others⟩ := List.forall_mem_cons.mp figures
    unfold joined?
    split
    · next same => cases same
    · next same => exact absurd (List.cons.inj same).1 (figure.ne (by decide) (by decide))
    · next same =>
      obtain ⟨rfl, rfl⟩ := List.cons.inj same
      rw [ih others, Option.map_some]

theorem IsFigure.toLower_ne {c : Char} (figure : IsFigure c) : c.toLower ≠ 'n' := by
  intro letter
  rcases eq_or_of_toLower (by decide : 'n'.toNat = 'N'.toNat + 32) letter with small | capital
  · exact figure.ne (by decide) (by decide) small
  · exact figure.ne (by decide) (by decide) capital

/-- Digits and points are none of the words for numbers, each of which has the same letter. -/
theorem read_of_figures {s t : List Char} {negative : Bool} (same : signed (trimSpace s) = (negative, t))
    (figures : ∀ c ∈ t, IsFigure c) : read? s = unsigned? negative t := by
  have unlettered {word : String} (spelled : String.ofList (t.map Char.toLower) = word) : 'n' ∉ word.toList := by
    rw [← spelled, String.toList_ofList]
    intro letter
    obtain ⟨c, member, own⟩ := List.mem_map.mp letter
    exact (figures c member).toLower_ne own
  unfold read?
  simp only [same]
  split
  · next word => exact absurd (by decide) (unlettered word)
  · next word => exact absurd (by decide) (unlettered word)
  · next word => exact absurd (by decide) (unlettered word)
  · rw [joined_of_figures figures, Option.bind_some]

/-- Texts of digits and points are not negative, and not undefined. -/
theorem ranged_of_figures {s : List Char} {x : Binary64} (figures : ∀ c ∈ s, IsFigure c)
    (found : read? s = some x) : Ranged false x := by
  have same : signed (trimSpace s) = (false, s) := by
    rw [trimSpace_of_unbroken fun c member => isBlank_of_isFigure (figures c member), signed_of_figures figures]
  rw [read_of_figures same figures] at found
  exact ranged_of_unsigned found

/-- Digits, perhaps with a point before the last of them. -/
inductive IsNumeral : List Char → Prop
  | whole {w : List Char} (digits : ∀ c ∈ w, isDecimal c = true) (written : w ≠ []) : IsNumeral w
  | pointed {w f : List Char} (digits : ∀ c ∈ w, isDecimal c = true) (places : ∀ c ∈ f, isDecimal c = true)
    (written : f ≠ []) : IsNumeral (w ++ '.' :: f)

theorem IsNumeral.figures {s : List Char} (numeral : IsNumeral s) : ∀ c ∈ s, IsFigure c := by
  intro c member
  cases numeral with
  | whole digits _ => exact .inl (digits c member)
  | pointed digits places _ =>
    rcases List.mem_append.mp member with before | after
    · exact .inl (digits c before)
    · rcases List.mem_cons.mp after with rfl | after
      · exact .inr rfl
      · exact .inl (places c after)

theorem isNumeral_of_numeral {s digits rest : List Char} (found : Length.numeral? s = some (digits, rest)) :
    IsNumeral digits := by
  have whole : ∀ c ∈ s.takeWhile isDecimal, isDecimal c = true := fun c => List.mem_takeWhile_imp
  unfold Length.numeral? at found
  simp only at found
  split at found
  · next after _ =>
    split at found
    · split at found
      · cases found
      · next written =>
        cases found
        exact .whole whole fun none => written (List.isEmpty_iff.mpr none)
    · next written =>
      cases found
      exact .pointed whole (fun c => List.mem_takeWhile_imp) fun none => written (List.isEmpty_iff.mpr none)
  · split at found
    · cases found
    · next written =>
      cases found
      exact .whole whole fun none => written (List.isEmpty_iff.mpr none)

theorem append_of_numeral {s digits rest : List Char} (found : Length.numeral? s = some (digits, rest)) :
    digits ++ rest = s := by
  unfold Length.numeral? at found
  simp only at found
  split at found
  · next after point =>
    split at found
    · split at found
      · cases found
      · cases found
        rw [← point, List.takeWhile_append_dropWhile]
    · cases found
      rw [List.append_assoc, List.cons_append, List.takeWhile_append_dropWhile, ← point,
        List.takeWhile_append_dropWhile]
  · split at found
    · cases found
    · cases found
      exact List.takeWhile_append_dropWhile

theorem exists_unsigned {s : List Char} (negative : Bool) (numeral : IsNumeral s) :
    ∃ x, unsigned? negative s = some x := by
  cases numeral with
  | whole digits written =>
    have all : s.takeWhile isDecimal = s := List.takeWhile_eq_self_iff.mpr digits
    have none : s.dropWhile isDecimal = [] := List.dropWhile_eq_nil_iff.mpr digits
    unfold unsigned?
    simp [all, none, written, exponent?]
  | @pointed w f digits places written =>
    have point : isDecimal '.' = false := by decide
    have mark : ∀ c ∈ ('.' :: f).head?, isDecimal c = false := by simp [point]
    obtain ⟨before, after⟩ := span_at_mark digits mark
    have all : f.takeWhile isDecimal = f := List.takeWhile_eq_self_iff.mpr places
    have none : f.dropWhile isDecimal = [] := List.dropWhile_eq_nil_iff.mpr places
    unfold unsigned?
    simp [before, after, all, none, written, exponent?]

theorem exists_read {s t : List Char} (negative : Bool) (same : signed (trimSpace s) = (negative, t))
    (numeral : IsNumeral t) : ∃ x, read? s = some x := by
  rw [read_of_figures same numeral.figures]
  exact exists_unsigned negative numeral

theorem IsNumeral.exists_read {s : List Char} (numeral : IsNumeral s) : ∃ x, read? s = some x := by
  refine Decimal.exists_read false ?_ numeral
  rw [trimSpace_of_unbroken fun c member => isBlank_of_isFigure (numeral.figures c member),
    signed_of_figures numeral.figures]

theorem exists_read_of_signedNumeral {s digits rest : List Char}
    (found : Length.signedNumeral? s = some (digits, rest)) : ∃ x, read? digits = some x := by
  unfold Length.signedNumeral? at found
  split at found
  · obtain ⟨⟨plain, after⟩, own, same⟩ := Option.map_eq_some_iff.mp found
    cases same
    have numeral := isNumeral_of_numeral own
    refine exists_read true ?_ numeral
    rw [trimSpace_of_unbroken (List.forall_mem_cons.mpr
      ⟨rfl, fun c member => isBlank_of_isFigure (numeral.figures c member)⟩)]
    rfl
  · exact (isNumeral_of_numeral found).exists_read

end Decimal

end Clipping

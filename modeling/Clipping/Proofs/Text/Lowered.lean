import Clipping.Text.Blank
import Clipping.Text.Case

/-! Lower case is settled: what it writes it leaves alone. No range of the table moves a
character into a range, so a character is moved once, and neither of the two letters that
are treated apart is ever written. -/
namespace Clipping.Text

/-- A code point that stands on a step of the range. -/
def CaseRange.Covers (r : CaseRange) (n : Nat) : Prop :=
  r.1 ≤ n ∧ n ≤ r.2.1 ∧ (n - r.1) % r.2.2.1 = 0

/-- The steps from the first to the last code point are characters, and none of them is
U+0130 or covered by a range. The steps of two ranges may interleave. -/
def areFree (first last step : Nat) : Bool :=
  (Nat.blt last 0xD800 || (Nat.blt 0xDFFF first && Nat.blt last 0x110000)) &&
    ((0x130, 0x130, 1, 0) :: lowerRanges).all fun (first', last', step', _) =>
      Nat.blt last first' || Nat.blt last' first ||
        ((step == 2 || first == last) && step' == 2 && (first + first') % 2 == 1)

/-- Where the range moves its steps is free. -/
def CaseRange.settles : CaseRange → Bool
  | (first, last, step, .ofNat k) => areFree (first + k) (last + k) step
  | (first, last, step, .negSucc k) =>
    Nat.blt k first && areFree (first - (k + 1)) (last - (k + 1)) step

theorem lowerRanges_settle : ∀ r ∈ lowerRanges, r.settles = true :=
  List.all_eq_true.mp (by decide +kernel)

/-- No range moves the code point, and it is none of the letters treated apart. -/
def Unmoved (n : Nat) : Prop := n ≠ 0x130 ∧ ∀ r ∈ lowerRanges, ¬r.Covers n

instance (r : CaseRange) (n : Nat) : Decidable (r.Covers n) :=
  inferInstanceAs (Decidable (_ ∧ _ ∧ _))

theorem toNat_ofNat {n : Nat} (h : n < 0xD800 ∨ 0xDFFF < n ∧ n < 0x110000) :
    (Char.ofNat n).toNat = n := by
  have valid : n.isValidChar := h
  rw [Char.ofNat, dif_pos valid]
  rfl

theorem unmoved_of_free {first last step n : Nat} (free : areFree first last step = true)
    (above : first ≤ n) (below : n ≤ last) (onStep : (n - first) % step = 0) :
    Unmoved (Char.ofNat n).toNat := by
  simp only [areFree, Bool.and_eq_true, Bool.or_eq_true, List.all_eq_true, Nat.blt_eq,
    beq_iff_eq] at free
  obtain ⟨valid, other⟩ := free
  rw [toNat_ofNat (by omega)]
  constructor
  · have dotted := other (0x130, 0x130, 1, 0) (by simp)
    dsimp only at dotted
    omega
  · intro r member ⟨above', below', onStep'⟩
    have parted := other r (List.mem_cons_of_mem _ member)
    obtain ⟨first', last', step', shift'⟩ := r
    dsimp only at parted above' below' onStep'
    rcases parted with (_ | _) | ⟨⟨two | one, two'⟩, odd⟩
    · omega
    · omega
    · subst two two'; omega
    · subst two'; omega

/-- A range writes characters that no range moves. -/
theorem unmoved_of_covers {r : CaseRange} (member : r ∈ lowerRanges) {n : Nat}
    (covers : r.Covers n) : Unmoved (Char.ofNat (n + r.2.2.2).toNat).toNat := by
  have settled := lowerRanges_settle r member
  obtain ⟨first, last, step, shift⟩ := r
  obtain ⟨above, below, onStep⟩ := covers
  dsimp only at above below onStep ⊢
  cases shift with
  | ofNat k =>
    have moved : ((n : Int) + Int.ofNat k).toNat = n + k := by simp; omega
    rw [moved]
    exact unmoved_of_free settled (by omega) (by omega)
      (by rwa [Nat.add_sub_add_right])
  | negSucc k =>
    simp only [CaseRange.settles, Bool.and_eq_true, Nat.blt_eq] at settled
    have moved : ((n : Int) + Int.negSucc k).toNat = n - (k + 1) := by omega
    rw [moved]
    refine unmoved_of_free settled.2 (by omega) (by omega) ?_
    rwa [show n - (k + 1) - (first - (k + 1)) = n - first by omega]

theorem moved_of_unmoved {c : Char} (h : Unmoved c.toNat) : moved lowerRanges c = c := by
  unfold moved
  split
  next first last step offset found =>
    have covers := List.find?_some found
    simp only [Bool.and_eq_true, decide_eq_true_eq, beq_iff_eq, and_assoc] at covers
    exact absurd covers (h.2 (first, last, step, offset) (List.mem_of_find?_eq_some found))
  next => rfl

/-- A character is moved at most once. -/
theorem unmoved_moved {c : Char} (h : c.toNat ≠ 0x130) :
    Unmoved (moved lowerRanges c).toNat := by
  unfold moved
  split
  next found =>
    have covers := List.find?_some found
    simp only [Bool.and_eq_true, decide_eq_true_eq, beq_iff_eq, and_assoc] at covers
    exact unmoved_of_covers (List.mem_of_find?_eq_some found) covers
  next found =>
    simp only [List.find?_eq_none, Bool.and_eq_true, decide_eq_true_eq, beq_iff_eq,
      and_assoc] at found
    exact ⟨h, found⟩

theorem toNat_toLower (c : Char) :
    c.toLower.toNat = if 0x41 ≤ c.toNat ∧ c.toNat ≤ 0x5A then c.toNat + 32 else c.toNat := by
  have capital : (c.val ≥ 'A'.val ∧ c.val ≤ 'Z'.val) ↔ (0x41 ≤ c.toNat ∧ c.toNat ≤ 0x5A) := by
    simp only [ge_iff_le, UInt32.le_iff_toNat_le]
    rfl
  unfold Char.toLower
  split
  next h =>
    rw [if_pos (capital.mp h)]
    have bound : c.val.toNat ≤ 0x5A := (capital.mp h).2
    show (c.val + 32).toNat = c.val.toNat + 32
    rw [UInt32.toNat_add]
    exact Nat.mod_eq_of_lt (Nat.lt_of_le_of_lt (Nat.add_le_add_right bound 32) (by decide))
  next h => rw [if_neg fun small => h (capital.mpr small)]

/-- Only a letter and its capital are the letter in lower case. -/
theorem eq_or_of_toLower {c small capital : Char} (pair : small.toNat = capital.toNat + 32)
    (lower : c.toLower = small) : c = small ∨ c = capital := by
  have code := toNat_toLower c
  rw [lower] at code
  split at code
  · exact .inr (Char.toNat_inj.mp (by omega))
  · exact .inl (Char.toNat_inj.mp code.symm)

/-- Of the ranges only the first one moves letters of ASCII. -/
theorem lowerRanges_ascii : ∀ r ∈ lowerRanges, r.1 < 128 → r = (0x41, 0x5A, 1, 32) := by
  decide +kernel

theorem lowerChar_of_unmoved {c : Char} (h : Unmoved c.toNat) : lowerChar c = c := by
  unfold lowerChar
  split
  · have small := h.2 (0x41, 0x5A, 1, 32) (by decide)
    simp only [CaseRange.Covers, Nat.mod_one, and_true] at small
    exact Char.ext (UInt32.toNat_inj.mp ((toNat_toLower c).trans (if_neg small)))
  · exact moved_of_unmoved h

theorem unmoved_lowerChar {c : Char} (h : c.toNat ≠ 0x130) : Unmoved (lowerChar c).toNat := by
  unfold lowerChar
  split
  next ascii =>
    by_cases capital : 0x41 ≤ c.toNat ∧ c.toNat ≤ 0x5A
    · have free := unmoved_of_covers (r := (0x41, 0x5A, 1, 32)) (by decide)
        ⟨capital.1, capital.2, Nat.mod_one _⟩
      dsimp only at free
      rw [show ((c.toNat : Int) + 32).toNat = c.toNat + 32 by omega,
        toNat_ofNat (by omega)] at free
      rwa [toNat_toLower, if_pos capital]
    · rw [toNat_toLower, if_neg capital]
      refine ⟨h, fun r member covers => ?_⟩
      obtain rfl := lowerRanges_ascii r member (Nat.lt_of_le_of_lt covers.1 ascii)
      exact capital ⟨covers.1, covers.2.1⟩
  next => exact unmoved_moved h

/-- Lower case leaves unmoved letters alone wherever they stand. -/
theorem lowerAfter_of_unmoved (before : List Char) {s : List Char}
    (h : ∀ c ∈ s, Unmoved c.toNat) : lowerAfter before s = s := by
  induction s generalizing before with
  | nil => rfl
  | cons c rest ih =>
    have own := h c List.mem_cons_self
    have sigma : c.toNat ≠ 0x3A3 := by
      intro same
      exact own.2 (0x3A3, 0x3AB, 1, 32) (by decide +kernel) (by simp [CaseRange.Covers, same])
    simp [lowerAfter, own.1, sigma, lowerChar_of_unmoved own,
      ih (c :: before) fun d member => h d (List.mem_cons_of_mem c member)]

theorem unmoved_lowerAfter (before s : List Char) :
    ∀ c ∈ lowerAfter before s, Unmoved c.toNat := by
  induction s generalizing before with
  | nil => simp [lowerAfter]
  | cons c rest ih =>
    intro d member
    simp only [lowerAfter, List.mem_append] at member
    rcases member with own | later
    · split at own
      · have letter : d = 'i' ∨ d = Char.ofNat 0x307 := by simpa using own
        rcases letter with rfl | rfl
        · exact ⟨by decide, by decide +kernel⟩
        · exact ⟨by decide, by decide +kernel⟩
      · split at own
        · obtain rfl := List.mem_singleton.mp own
          exact ⟨by decide, by decide +kernel⟩
        · obtain rfl := List.mem_singleton.mp own
          next plain _ => exact unmoved_lowerChar plain
    · exact ih _ d later

/-- No small letter: what stands before them in ASCII, and the blanks. -/
def isUnlettered (c : Char) : Bool := Nat.blt c.toNat 0x61 || isBlank c

def farBlanks : List (Int × Int) := [
  (0x85, 0x85), (0xA0, 0xA0), (0x1680, 0x1680), (0x2000, 0x200A), (0x2028, 0x2029),
  (0x202F, 0x202F), (0x205F, 0x205F), (0x3000, 0x3000)]

/-- Where the range moves its steps are characters, and letters. -/
def CaseRange.writesLetters : CaseRange → Bool
  | (first, last, _, shift) =>
    (last + shift < 0xD800 || (0xDFFF < first + shift && last + shift < 0x110000)) &&
      0x61 ≤ first + shift &&
      farBlanks.all fun (first', last') => last + shift < first' || last' < first + shift

theorem lowerRanges_writeLetters : ∀ r ∈ lowerRanges, r.writesLetters = true :=
  List.all_eq_true.mp (by decide +kernel)

theorem not_isUnlettered_of_covers {r : CaseRange} (member : r ∈ lowerRanges) {n : Nat}
    (covers : r.Covers n) : isUnlettered (Char.ofNat (n + r.2.2.2).toNat) = false := by
  have letters := lowerRanges_writeLetters r member
  obtain ⟨first, last, step, shift⟩ := r
  obtain ⟨above, below, -⟩ := covers
  simp only [CaseRange.writesLetters, Bool.and_eq_true, Bool.or_eq_true, decide_eq_true_eq,
    farBlanks, List.all_cons, List.all_nil, and_true] at letters
  dsimp only at above below ⊢
  obtain ⟨⟨valid, small⟩, far⟩ := letters
  have code := @toNat_ofNat ((n : Int) + shift).toNat (by omega)
  refine Bool.eq_false_iff.mpr fun plain => ?_
  simp only [isUnlettered, isBlank, code, Bool.or_eq_true, Bool.and_eq_true, decide_eq_true_eq,
    beq_iff_eq, Nat.blt_eq] at plain
  omega

theorem moved_of_isUnlettered {c : Char} (h : isUnlettered (moved lowerRanges c) = true) :
    moved lowerRanges c = c := by
  unfold moved at h ⊢
  split at h
  next first last step offset found =>
    have covers := List.find?_some found
    simp only [Bool.and_eq_true, decide_eq_true_eq, beq_iff_eq, and_assoc] at covers
    have letter := @not_isUnlettered_of_covers (first, last, step, offset)
      (List.mem_of_find?_eq_some found) _ covers
    exact absurd h (by simp [letter])
  next => rfl

theorem lowerChar_of_isUnlettered {c : Char} (h : isUnlettered (lowerChar c) = true) :
    lowerChar c = c := by
  unfold lowerChar at h ⊢
  split at h
  next ascii =>
    rw [if_pos ascii]
    by_cases capital : 0x41 ≤ c.toNat ∧ c.toNat ≤ 0x5A
    · simp only [isUnlettered, isBlank, toNat_toLower, if_pos capital, Bool.or_eq_true,
        Bool.and_eq_true, decide_eq_true_eq, beq_iff_eq, Nat.blt_eq] at h
      omega
    · exact Char.ext (UInt32.toNat_inj.mp ((toNat_toLower c).trans (if_neg capital)))
  next far =>
    rw [if_neg far]
    exact moved_of_isUnlettered h

/-- What lower case writes for the first character: what is no letter stands for itself. -/
theorem lowerAfter_cons (before : List Char) (c : Char) (s : List Char) :
    ∃ d low, lowerAfter before (c :: s) = d :: (low ++ lowerAfter (c :: before) s) ∧
      (isUnlettered d = true → d = c) ∧ (∀ e ∈ low, isUnlettered e = false) ∧
      (c.toNat < 128 → d = c.toLower) := by
  by_cases dotted : c.toNat = 0x130
  · exact ⟨'i', [Char.ofNat 0x307], by simp [lowerAfter, dotted], fun plain => absurd plain (by decide),
      by simp; decide, by omega⟩
  by_cases sigma : (c.toNat = 0x3A3 && endsWord before s) = true
  · refine ⟨Char.ofNat 0x3C2, [], by rw [lowerAfter]; simp only [dotted, sigma]; rfl,
      fun plain => absurd plain (by decide), by simp, ?_⟩
    simp only [Bool.and_eq_true, decide_eq_true_eq] at sigma
    omega
  · refine ⟨lowerChar c, [], by rw [lowerAfter]; simp only [dotted, sigma]; rfl,
      lowerChar_of_isUnlettered, by simp, fun ascii => ?_⟩
    rw [lowerChar, if_pos ascii]

/-- Lower case adds nothing but letters. -/
theorem mem_of_mem_lowerAfter {before s : List Char} {d : Char} (member : d ∈ lowerAfter before s)
    (plain : isUnlettered d = true) : d ∈ s := by
  induction s generalizing before with
  | nil => simp [lowerAfter] at member
  | cons c s ih =>
    obtain ⟨first, low, parts, own, letters, -⟩ := lowerAfter_cons before c s
    rw [parts] at member
    rcases List.mem_cons.mp member with rfl | member
    · exact List.mem_cons.mpr (.inl (own plain))
    rcases List.mem_append.mp member with inside | later
    · simp [letters d inside] at plain
    · exact List.mem_cons_of_mem c (ih later)

end Clipping.Text

namespace Clipping

@[simp] theorem lower_lower (s : String) : lower (lower s) = lower s := by
  unfold lower
  rw [String.toList_ofList, Text.lowerAfter_of_unmoved [] (Text.unmoved_lowerAfter [] _)]

end Clipping

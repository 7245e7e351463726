import Clipping.Proofs.Config.Naming
import Clipping.Proofs.Text.Words
import Clipping.Utility.Literal

/-! Texts without blanks. One that is not empty is a word; words with a space between every two
of them are split into the same words again, and nothing else is. -/
namespace Clipping

open Text

namespace Text

theorem words_blank {c : Char} (blank : isBlank c = true) (s : List Char) : words (c :: s) = words s := by
  rw [words.eq_def]
  exact if_pos blank

theorem words_cons {c d : Char} (visible : isBlank c = false) (next : isBlank d = false) {s word : List Char}
    {others : List (List Char)} (found : words (d :: s) = word :: others) :
    words (c :: d :: s) = (c :: word) :: others := by
  rw [words.eq_def]
  simp [visible, next, found]

theorem words_cons_blank {c d : Char} (visible : isBlank c = false) (blank : isBlank d = true) (s : List Char) :
    words (c :: d :: s) = [c] :: words s := by
  rw [words.eq_def]
  simp [visible, blank, words_blank blank]

theorem words_of_unbroken {c : Char} {s : List Char} (unbroken : ∀ d ∈ c :: s, isBlank d = false) :
    words (c :: s) = [c :: s] := by
  induction s generalizing c with
  | nil =>
    rw [words.eq_def]
    simp [unbroken c List.mem_cons_self]
  | cons d s ih =>
    obtain ⟨visible, others⟩ := List.forall_mem_cons.mp unbroken
    exact words_cons visible (others d List.mem_cons_self) (ih others)

theorem words_append_blank {c b : Char} {s : List Char} (unbroken : ∀ d ∈ c :: s, isBlank d = false)
    (blank : isBlank b = true) (rest : List Char) :
    words (c :: s ++ b :: rest) = (c :: s) :: words rest := by
  induction s generalizing c with
  | nil => exact words_cons_blank (unbroken c List.mem_cons_self) blank rest
  | cons d s ih =>
    obtain ⟨visible, others⟩ := List.forall_mem_cons.mp unbroken
    exact words_cons visible (others d List.mem_cons_self) (ih others)

theorem of_mem_words {s word : List Char} (member : word ∈ words s) :
    word ≠ [] ∧ ∀ c ∈ word, isBlank c = false := by
  induction s generalizing word with
  | nil => cases member
  | cons c s ih =>
    cases visible : isBlank c with
    | true => exact ih (words_blank visible s ▸ member)
    | false =>
      have alone : [c] ≠ [] ∧ ∀ d ∈ [c], isBlank d = false := ⟨by simp, List.forall_mem_singleton.mpr visible⟩
      cases s with
      | nil =>
        rw [words_of_unbroken (List.forall_mem_singleton.mpr visible)] at member
        exact List.mem_singleton.mp member ▸ alone
      | cons d s =>
        cases next : isBlank d with
        | true =>
          rw [words_cons_blank visible next] at member
          rcases List.mem_cons.mp member with rfl | later
          · exact alone
          · exact ih (words_blank next s ▸ later)
        | false =>
          cases found : words (d :: s) with
          | nil => exact absurd found (words_ne_nil next)
          | cons first others =>
            rw [words_cons visible next found] at member
            rcases List.mem_cons.mp member with rfl | later
            · have own := ih (found ▸ List.mem_cons_self)
              exact ⟨by simp, List.forall_mem_cons.mpr ⟨visible, own.2⟩⟩
            · exact ih (found ▸ List.mem_cons_of_mem first later)

end Text

def IsUnbroken (s : String) : Prop := ∀ c ∈ s.toList, isBlank c = false

instance (s : String) : Decidable (IsUnbroken s) := List.decidableBAll (fun c => isBlank c = false) s.toList

def IsWord (s : String) : Prop := s ≠ "" ∧ IsUnbroken s

instance (s : String) : Decidable (IsWord s) := inferInstanceAs (Decidable (_ ∧ _))

theorem isUnbroken_ofList {s : List Char} : IsUnbroken (String.ofList s) ↔ ∀ c ∈ s, isBlank c = false := by
  rw [IsUnbroken, String.toList_ofList]

theorem isUnbroken_append {s t : String} : IsUnbroken (s ++ t) ↔ IsUnbroken s ∧ IsUnbroken t := by
  rw [IsUnbroken, String.toList_append, List.forall_mem_append]
  rfl

theorem IsUnbroken.append {s t : String} (first : IsUnbroken s) (second : IsUnbroken t) :
    IsUnbroken (s ++ t) := isUnbroken_append.mpr ⟨first, second⟩

/-! Splitting. -/

theorem isWord_of_mem_split {s word : String} (member : word ∈ split s) : IsWord word := by
  obtain ⟨chars, own, rfl⟩ := List.mem_map.mp member
  obtain ⟨written, unbroken⟩ := of_mem_words own
  refine ⟨fun none => written ?_, isUnbroken_ofList.mpr unbroken⟩
  have lists := congrArg String.toList none
  rwa [String.toList_ofList] at lists

theorem IsWord.exists_chars {word : String} (own : IsWord word) :
    ∃ c s, word = String.ofList (c :: s) ∧ ∀ d ∈ c :: s, isBlank d = false := by
  cases chars : word.toList with
  | nil => exact absurd (String.toList_eq_nil_iff.mp chars) own.1
  | cons c s => exact ⟨c, s, by rw [← chars, String.ofList_toList], chars ▸ own.2⟩

/-- Only words can be joined by spaces and split again. -/
theorem split_intercalate {tokens : List String} :
    split (String.intercalate " " tokens) = tokens ↔ ∀ t ∈ tokens, IsWord t := by
  constructor
  · intro same t member
    exact isWord_of_mem_split (same ▸ member)
  · intro words
    induction tokens with
    | nil => rfl
    | cons t rest ih =>
      obtain ⟨own, others⟩ := List.forall_mem_cons.mp words
      obtain ⟨c, s, rfl, unbroken⟩ := own.exists_chars
      cases rest with
      | nil => simp [split, words_of_unbroken unbroken]
      | cons next rest =>
        have later := ih others
        have chars : (String.intercalate " " (String.ofList (c :: s) :: next :: rest)).toList =
            c :: s ++ ' ' :: (String.intercalate " " (next :: rest)).toList := by
          simp [String.intercalate_cons_cons]
        rw [split, chars, words_append_blank unbroken rfl, List.map_cons]
        exact congrArg _ later

/-! Texts that have no blanks. -/

theorem isBlank_of_isDecimal {c : Char} (digit : isDecimal c = true) : isBlank c = false := by
  have apart : ∀ base ∈ decimalZeros, base = 0x30 ∨ (0xA0 < base ∧ base + 9 < 0x1680) ∨
      (0x1680 < base ∧ base + 9 < 0x2000) ∨ 0x3000 < base := by decide
  refine Bool.eq_false_iff.mpr fun blank => ?_
  simp only [isBlank, Bool.or_eq_true, Bool.and_eq_true, decide_eq_true_eq, beq_iff_eq] at blank
  unfold isDecimal digitValue? at digit
  split at digit
  · split at digit
    · next own =>
      simp only [Char.isDigit, Bool.and_eq_true, decide_eq_true_eq] at own
      have low : 0x30 ≤ c.toNat := own.1
      have high : c.toNat ≤ 0x39 := own.2
      omega
    · cases digit
  · rw [Option.isSome_map, List.find?_isSome] at digit
    obtain ⟨base, member, inside⟩ := digit
    simp only [Bool.and_eq_true, decide_eq_true_eq] at inside
    have far := apart base member
    omega

theorem ne_of_isDecimal {c d : Char} (digit : isDecimal c = true) (other : isDecimal d = false) : c ≠ d := by
  rintro rfl
  rw [digit] at other
  cases other

theorem isBlank_of_isDigit {c : Char} (digit : c.isDigit = true) : isBlank c = false := by
  refine Bool.eq_false_iff.mpr fun blank => ?_
  simp only [isBlank, Bool.or_eq_true, Bool.and_eq_true, decide_eq_true_eq, beq_iff_eq] at blank
  simp only [Char.isDigit, Bool.and_eq_true, decide_eq_true_eq] at digit
  have low : 0x30 ≤ c.toNat := digit.1
  have high : c.toNat ≤ 0x39 := digit.2
  omega

theorem isUnbroken_escaped (v : String) : IsUnbroken (Literal.escaped v) :=
  isUnbroken_ofList.mpr (underscored_no_blank _)

end Clipping

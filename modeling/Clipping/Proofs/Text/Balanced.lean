import Clipping.Proofs.Text.Trimmed
import Clipping.Proofs.Text.Unbroken

/-! Round brackets in texts. A text is balanced if each bracket that closes has one to close and
none stays open. The brackets alone decide that, so blanks may come and go; a plain text has
neither blanks nor brackets. -/
namespace Clipping

namespace Text

/-- How many brackets are open behind a text, with so many open before it. There is no answer
where a bracket has none to close. -/
def openAfter : Nat → List Char → Option Nat
  | n, [] => some n
  | n, c :: s =>
    if c = '(' then openAfter (n + 1) s
    else if c = ')' then
      match n with
      | 0 => none
      | n + 1 => openAfter n s
    else openAfter n s

def isBracket (c : Char) : Bool := c == '(' || c == ')'

def isPlain (c : Char) : Bool := !isBlank c && !isBracket c

theorem openAfter_opening (n : Nat) (s : List Char) : openAfter n ('(' :: s) = openAfter (n + 1) s := rfl

theorem openAfter_closing (n : Nat) (s : List Char) : openAfter (n + 1) (')' :: s) = openAfter n s := rfl

theorem openAfter_other {c : Char} (opening : c ≠ '(') (closing : c ≠ ')') (n : Nat) (s : List Char) :
    openAfter n (c :: s) = openAfter n s := by
  simp [openAfter, opening, closing]

theorem openAfter_append (n : Nat) (s t : List Char) :
    openAfter n (s ++ t) = (openAfter n s).bind fun k => openAfter k t := by
  induction s generalizing n with
  | nil => rfl
  | cons c s ih =>
    by_cases opening : c = '('
    · subst opening
      exact ih (n + 1)
    · by_cases closing : c = ')'
      · subst closing
        cases n with
        | zero => rfl
        | succ n => exact ih n
      · rw [List.cons_append, openAfter_other opening closing, openAfter_other opening closing, ih]

theorem openAfter_add {n k : Nat} {s : List Char} (found : openAfter n s = some k) (m : Nat) :
    openAfter (n + m) s = some (k + m) := by
  induction s generalizing n with
  | nil =>
    obtain rfl := Option.some.inj found
    rfl
  | cons c s ih =>
    by_cases opening : c = '('
    · subst opening
      have later := ih (openAfter_opening n s ▸ found)
      rwa [Nat.add_right_comm] at later
    · by_cases closing : c = ')'
      · subst closing
        cases n with
        | zero => cases found
        | succ n =>
          rw [Nat.add_right_comm, openAfter_closing]
          exact ih found
      · rw [openAfter_other opening closing] at found ⊢
        exact ih found

theorem openAfter_filter (n : Nat) (s : List Char) : openAfter n (s.filter isBracket) = openAfter n s := by
  induction s generalizing n with
  | nil => rfl
  | cons c s ih =>
    by_cases opening : c = '('
    · subst opening
      exact ih (n + 1)
    · by_cases closing : c = ')'
      · subst closing
        cases n with
        | zero => rfl
        | succ n => exact ih n
      · have other : isBracket c = false := by simp [isBracket, opening, closing]
        rw [openAfter_other opening closing, List.filter_cons, other]
        exact ih n

theorem filter_isBracket_of_plain {s : List Char} (plain : ∀ c ∈ s, isPlain c = true) :
    s.filter isBracket = [] := by
  refine List.filter_eq_nil_iff.mpr fun c member bracket => ?_
  have own := plain c member
  simp [isPlain, bracket] at own

theorem isBlank_of_isPlain {c : Char} (plain : isPlain c = true) : isBlank c = false := by
  simp only [isPlain, Bool.and_eq_true, Bool.not_eq_true'] at plain
  exact plain.1

theorem isBlank_of_isBracket {c : Char} (bracket : isBracket c = true) : isBlank c = false := by
  simp only [isBracket, Bool.or_eq_true, beq_iff_eq] at bracket
  rcases bracket with rfl | rfl
  · rfl
  · rfl

theorem isPlain_of_ne {c : Char} (visible : isBlank c = false) (opening : c ≠ '(') (closing : c ≠ ')') :
    isPlain c = true := by
  simp [isPlain, isBracket, visible, opening, closing]

theorem isPlain_of_isDecimal {c : Char} (digit : isDecimal c = true) : isPlain c = true := by
  refine isPlain_of_ne (isBlank_of_isDecimal digit) ?_ ?_
  · exact ne_of_isDecimal digit (by decide)
  · exact ne_of_isDecimal digit (by decide)

theorem isPlain_of_isDigit {c : Char} (digit : c.isDigit = true) : isPlain c = true := by
  refine isPlain_of_ne (isBlank_of_isDigit digit) ?_ ?_
  · rintro rfl
    exact absurd digit (by decide)
  · rintro rfl
    exact absurd digit (by decide)

/-! What blanks there are does not matter. -/

/-- Words hold all that is not blank. -/
theorem flatten_words (s : List Char) : (words s).flatten = s.filter fun c => !isBlank c := by
  induction s with
  | nil => rfl
  | cons c s ih =>
    cases visible : isBlank c with
    | true => simpa [words_blank visible, visible] using ih
    | false =>
      cases s with
      | nil => simp [words_of_unbroken (List.forall_mem_singleton.mpr visible), visible]
      | cons d s =>
        cases next : isBlank d with
        | true =>
          rw [words_cons_blank visible next, ← words_blank next, List.flatten_cons, ih]
          simp [visible]
        | false =>
          cases found : words (d :: s) with
          | nil => exact absurd found (words_ne_nil next)
          | cons word others =>
            rw [found] at ih
            rw [words_cons visible next found, List.flatten_cons, List.cons_append, ← List.flatten_cons, ih]
            simp [visible]

theorem filter_isBracket_visible (s : List Char) :
    (s.filter fun c => !isBlank c).filter isBracket = s.filter isBracket := by
  rw [List.filter_filter]
  refine List.filter_congr fun c _ => ?_
  cases bracket : isBracket c with
  | true => simp [isBlank_of_isBracket bracket]
  | false => rfl

theorem filter_isBracket_trim (s : List Char) : (trim s).filter isBracket = s.filter isBracket := by
  rw [← filter_isBracket_visible, filter_trim, filter_isBracket_visible]

theorem filter_isBracket_of_blank {s : List Char} (blank : IsBlankText s) : s.filter isBracket = [] := by
  refine List.filter_eq_nil_iff.mpr fun c member bracket => ?_
  have visible := isBlank_of_isBracket bracket
  rw [blank c member] at visible
  cases visible

theorem filter_isBracket_dropBlank (s : List Char) : (dropBlank s).filter isBracket = s.filter isBracket := by
  have before : IsBlankText (s.takeWhile isBlank) := fun _ member => List.mem_takeWhile_imp member
  conv => rhs; rw [← List.takeWhile_append_dropWhile (l := s) (p := isBlank)]
  rw [List.filter_append, filter_isBracket_of_blank before, List.nil_append]
  rfl

theorem filter_isBracket_underscored (s : List Char) :
    (underscored s).filter isBracket = s.filter isBracket := by
  have line : isBracket '_' = false := rfl
  have none {c : Char} (blank : isBlank c = true) : isBracket c = false :=
    Bool.eq_false_iff.mpr fun bracket => by simp [isBlank_of_isBracket bracket] at blank
  induction s with
  | nil => rfl
  | cons c s ih =>
    cases visible : isBlank c with
    | false => simp [underscored, visible, List.filter_cons, ih]
    | true =>
      cases s with
      | nil => simp [underscored, visible, line, none visible]
      | cons d s =>
        unfold underscored
        cases next : isBlank d with
        | true => simpa [visible, next, none visible] using ih
        | false => simpa [visible, next, none visible, line] using ih

end Text

open Text

def IsPlain (s : String) : Prop := ∀ c ∈ s.toList, isPlain c = true

instance (s : String) : Decidable (IsPlain s) := List.decidableBAll (fun c => isPlain c = true) s.toList

/-- Each bracket that closes has one to close, and none stays open. -/
def IsBalanced (s : String) : Prop := openAfter 0 s.toList = some 0

instance (s : String) : Decidable (IsBalanced s) := inferInstanceAs (Decidable (_ = _))

theorem isPlain_ofList {s : List Char} : IsPlain (String.ofList s) ↔ ∀ c ∈ s, isPlain c = true := by
  rw [IsPlain, String.toList_ofList]

theorem IsPlain.append {s t : String} (first : IsPlain s) (second : IsPlain t) : IsPlain (s ++ t) := by
  rw [IsPlain, String.toList_append]
  exact List.forall_mem_append.mpr ⟨first, second⟩

theorem IsPlain.isUnbroken {s : String} (plain : IsPlain s) : IsUnbroken s := fun c member =>
  isBlank_of_isPlain (plain c member)

/-- Texts with the same brackets are balanced together. -/
theorem isBalanced_congr {s t : String} (same : s.toList.filter isBracket = t.toList.filter isBracket) :
    IsBalanced s ↔ IsBalanced t := by
  rw [IsBalanced, IsBalanced, ← openAfter_filter, same, openAfter_filter]

theorem IsPlain.isBalanced {s : String} (plain : IsPlain s) : IsBalanced s := by
  rw [IsBalanced, ← openAfter_filter, filter_isBracket_of_plain plain]
  rfl

theorem isBalanced_escaped {v : String} : IsBalanced (Literal.escaped v) ↔ IsBalanced v := by
  refine isBalanced_congr ?_
  rw [Literal.escaped, String.toList_ofList, filter_isBracket_underscored, filter_isBracket_trim]

/-- A balanced part makes no difference before a text. -/
theorem IsBalanced.append_iff {s : String} (first : IsBalanced s) (t : String) :
    IsBalanced (s ++ t) ↔ IsBalanced t := by
  rw [IsBalanced, String.toList_append, openAfter_append, first]
  rfl

/-- Nor behind it. -/
theorem IsBalanced.append_right_iff {t : String} (second : IsBalanced t) (s : String) :
    IsBalanced (s ++ t) ↔ IsBalanced s := by
  rw [IsBalanced, IsBalanced, String.toList_append, openAfter_append]
  cases found : openAfter 0 s.toList with
  | none => simp
  | some n =>
    have later := openAfter_add second n
    rw [Nat.zero_add] at later
    simp [later]

theorem IsBalanced.append {s t : String} (first : IsBalanced s) (second : IsBalanced t) :
    IsBalanced (s ++ t) := (first.append_iff t).mpr second

/-- Half of a balanced text is balanced if the other half is the same. -/
theorem isBalanced_of_double {s : String} (twice : IsBalanced (s ++ s)) : IsBalanced s := by
  rw [IsBalanced, String.toList_append, openAfter_append] at twice
  obtain ⟨n, once, again⟩ := Option.bind_eq_some_iff.mp twice
  have later := openAfter_add once n
  rw [Nat.zero_add, again] at later
  have none : n = 0 := by
    have sum := Option.some.inj later
    omega
  rw [IsBalanced, once, none]

theorem filter_isBracket_split (v : String) :
    (split v).flatMap (fun word => word.toList.filter isBracket) = v.toList.filter isBracket := by
  have chars : (words v.toList).flatMap (List.filter isBracket) = (words v.toList).flatten.filter isBracket := by
    rw [List.filter_flatten, List.flatMap_def]
  rw [split, List.flatMap_map]
  simp only [String.toList_ofList]
  rw [chars, flatten_words, filter_isBracket_visible]

/-- A value of two equal words is balanced only if the word is. -/
theorem isBalanced_of_split_double {v word : String} (halves : split v = [word, word])
    (balanced : IsBalanced v) : IsBalanced word := by
  refine isBalanced_of_double ((isBalanced_congr ?_).mpr balanced)
  rw [← filter_isBracket_split v, halves]
  simp

end Clipping

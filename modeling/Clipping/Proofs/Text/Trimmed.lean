import Clipping.Text.Blank
import Mathlib.Data.List.DropRight

/-! Trimming a text takes blanks from its two ends, and nothing else. Blanks that are put
around a text are taken again, so texts that agree once trimmed are alike up to blanks
around them. -/
namespace Clipping.Text

def IsBlankText (s : List Char) : Prop := ∀ c ∈ s, isBlank c = true

instance (s : List Char) : Decidable (IsBlankText s) := List.decidableBAll (fun c => isBlank c = true) s

theorem isBlankText_nil : IsBlankText [] := nofun

abbrev Blanks := {s : List Char // IsBlankText s}

/-- What stands before the first character outside of a class. -/
theorem span_at_mark {p : Char → Bool} {s r : List Char} (inside : ∀ c ∈ s, p c = true)
    (mark : ∀ c ∈ r.head?, p c = false) :
    (s ++ r).takeWhile p = s ∧ (s ++ r).dropWhile p = r := by
  rw [List.takeWhile_append_of_pos inside, List.dropWhile_append_of_pos inside]
  cases r with
  | nil => simp
  | cons c r => simp [mark c rfl]

theorem isBlankText_append {s t : List Char} : IsBlankText (s ++ t) ↔ IsBlankText s ∧ IsBlankText t :=
  List.forall_mem_append

theorem trim_eq (s : List Char) : trim s = (dropBlank s).rdropWhile isBlank := rfl

theorem dropBlank_eq_nil_iff {s : List Char} : dropBlank s = [] ↔ IsBlankText s :=
  List.dropWhile_eq_nil_iff

theorem dropBlank_cons {c : Char} (visible : isBlank c = false) (s : List Char) : dropBlank (c :: s) = c :: s :=
  List.dropWhile_cons_of_neg (by simp [visible])

theorem head_dropBlank {s : List Char} {c : Char} (first : c ∈ (dropBlank s).head?) : isBlank c = false := by
  have written : dropBlank s ≠ [] := by
    intro empty
    rw [empty] at first
    cases first
  rw [← (List.head_eq_iff_head?_eq_some written).mpr first]
  exact List.head_dropWhile_not isBlank written

/-- What is dropped at the start of a text is blank. -/
theorem exists_blanks (s : List Char) : ∃ a, IsBlankText a ∧ s = a ++ dropBlank s :=
  ⟨s.takeWhile isBlank, fun _ => List.mem_takeWhile_imp, List.takeWhile_append_dropWhile.symm⟩

theorem exists_eq_trim (s : List Char) :
    ∃ a b, IsBlankText a ∧ IsBlankText b ∧ s = a ++ (trim s ++ b) := by
  refine ⟨s.takeWhile isBlank, (dropBlank s).rtakeWhile isBlank, fun c => List.mem_takeWhile_imp,
    fun c => List.mem_rtakeWhile_imp, ?_⟩
  rw [trim_eq, List.rdropWhile_append_rtakeWhile]
  exact (List.takeWhile_append_dropWhile).symm

theorem trim_eq_nil_iff {s : List Char} : trim s = [] ↔ IsBlankText s := by
  constructor
  · intro none
    obtain ⟨a, b, before, behind, parts⟩ := exists_eq_trim s
    rw [parts, none]
    exact isBlankText_append.mpr ⟨before, behind⟩
  · intro blank
    rw [trim_eq, dropBlank_eq_nil_iff.mpr blank, List.rdropWhile_nil]

theorem dropBlank_append_of_blank {a : List Char} (blank : IsBlankText a) (s : List Char) :
    dropBlank (a ++ s) = dropBlank s := List.dropWhile_append_of_pos blank

theorem dropBlank_append_of_ne {s : List Char} (shown : dropBlank s ≠ []) (t : List Char) :
    dropBlank (s ++ t) = dropBlank s ++ t := by
  unfold dropBlank at shown ⊢
  rw [List.dropWhile_append, if_neg (by simpa using shown)]

theorem trim_append_of_blank {a : List Char} (blank : IsBlankText a) (s : List Char) :
    trim (a ++ s) = trim s := by
  rw [trim_eq, dropBlank_append_of_blank blank, trim_eq]

theorem rdropWhile_append_of_blank {b : List Char} (blank : IsBlankText b) (s : List Char) :
    (s ++ b).rdropWhile isBlank = s.rdropWhile isBlank := by
  have backwards : ∀ c ∈ b.reverse, isBlank c = true := fun c member => blank c (List.mem_reverse.mp member)
  simp only [List.rdropWhile, List.reverse_append, List.dropWhile_append_of_pos backwards]

theorem rdropWhile_append_of_not_blank {t : List Char} (shown : ¬IsBlankText t) (s : List Char) :
    (s ++ t).rdropWhile isBlank = s ++ t.rdropWhile isBlank := by
  have backwards : t.reverse.dropWhile isBlank ≠ [] := by
    intro none
    exact shown fun c member => List.dropWhile_eq_nil_iff.mp none c (List.mem_reverse.mpr member)
  simp only [List.rdropWhile, List.reverse_append]
  rw [List.dropWhile_append, if_neg (by simpa using backwards), List.reverse_append, List.reverse_reverse]

theorem trim_append_blank {b : List Char} (blank : IsBlankText b) (s : List Char) :
    trim (s ++ b) = trim s := by
  by_cases none : dropBlank s = []
  · have all := isBlankText_append.mpr ⟨dropBlank_eq_nil_iff.mp none, blank⟩
    rw [trim_eq_nil_iff.mpr all, trim_eq_nil_iff.mpr (dropBlank_eq_nil_iff.mp none)]
  · rw [trim_eq, dropBlank_append_of_ne none, rdropWhile_append_of_blank blank, trim_eq]

theorem trim_dropBlank (s : List Char) : trim (dropBlank s) = trim s := by
  have blank : IsBlankText (s.takeWhile isBlank) := fun c => List.mem_takeWhile_imp
  rw [← trim_append_of_blank blank, dropBlank, List.takeWhile_append_dropWhile]

theorem trim_rdropWhile (s : List Char) : trim (s.rdropWhile isBlank) = trim s := by
  have blank : IsBlankText (s.rtakeWhile isBlank) := fun c => List.mem_rtakeWhile_imp
  rw [← trim_append_blank blank, List.rdropWhile_append_rtakeWhile]

theorem trim_trim (s : List Char) : trim (trim s) = trim s := by
  obtain ⟨a, b, before, behind, parts⟩ := exists_eq_trim s
  have outer := congrArg trim parts
  rwa [trim_append_of_blank before, trim_append_blank behind, eq_comm] at outer

/-- A text that starts and ends with a visible character is trimmed. -/
theorem trim_of_ends {s : List Char} (starts : ∀ c ∈ s.head?, isBlank c = false)
    (ends : ∀ c ∈ s.getLast?, isBlank c = false) : trim s = s := by
  rw [trim_eq, dropBlank_eq_self starts]
  refine List.rdropWhile_eq_self_iff.mpr fun written => ?_
  exact Bool.eq_false_iff.mp (ends _ (List.getLast?_eq_some_getLast written))

theorem trim_of_unbroken {s : List Char} (unbroken : ∀ c ∈ s, isBlank c = false) : trim s = s :=
  trim_of_ends (fun c first => unbroken c (List.mem_of_mem_head? first))
    fun c last => unbroken c (List.mem_of_mem_getLast? last)

theorem trimSpace_of_unbroken {s : List Char} (unbroken : ∀ c ∈ s, isBlank c = false) : trimSpace s = s := by
  have stays {t : List Char} (inside : ∀ c ∈ t, isBlank c = false) : t.dropWhile isSpace = t := by
    cases t with
    | nil => rfl
    | cons c t => simp [isSpace, inside c List.mem_cons_self]
  rw [trimSpace, stays unbroken, stays fun c member => unbroken c (List.mem_reverse.mp member),
    List.reverse_reverse]

/-- The characters that are not blank stay. -/
theorem filter_trim (s : List Char) :
    (trim s).filter (fun c => !isBlank c) = s.filter fun c => !isBlank c := by
  have none {t : List Char} (blank : IsBlankText t) : t.filter (fun c => !isBlank c) = [] :=
    List.filter_eq_nil_iff.mpr fun c member => by simp [blank c member]
  obtain ⟨a, b, before, behind, parts⟩ := exists_eq_trim s
  conv => rhs; rw [parts]
  rw [List.filter_append, List.filter_append, none before, none behind, List.append_nil, List.nil_append]

end Clipping.Text

namespace Clipping

open Text

theorem toList_strip (s : String) : (strip s).toList = trim s.toList := String.toList_ofList

theorem strip_eq_empty_iff {s : String} : strip s = "" ↔ IsBlankText s.toList := by
  rw [← String.toList_inj, toList_strip]
  exact trim_eq_nil_iff

theorem strip_eq_strip_iff {s t : String} : strip s = strip t ↔ trim s.toList = trim t.toList := by
  rw [← String.toList_inj, toList_strip, toList_strip]

end Clipping

import Clipping.Text.Blank

/-! Texts without blanks around them: they start with a character that is not blank, and so
have a word. -/
namespace Clipping

namespace Text

theorem length_dropBlank_le (s : List Char) : (dropBlank s).length ≤ s.length :=
  (List.dropWhile_sublist _).length_le

theorem length_trim_le (s : List Char) : (trim s).length ≤ (dropBlank s).length := by
  unfold trim
  rw [List.length_reverse]
  have dropped := length_dropBlank_le (dropBlank s).reverse
  rwa [List.length_reverse] at dropped

theorem isBlank_of_trim_cons {c : Char} {s : List Char} (trimmed : trim (c :: s) = c :: s) :
    isBlank c = false := by
  cases blank : isBlank c with
  | false => rfl
  | true =>
    have first : dropBlank (c :: s) = dropBlank s := by simp [dropBlank, blank]
    have lost := length_trim_le (c :: s)
    have rest := length_dropBlank_le s
    rw [trimmed, first, List.length_cons] at lost
    omega

theorem words_ne_nil {c : Char} {s : List Char} (visible : isBlank c = false) : words (c :: s) ≠ [] := by
  unfold words
  simp only [visible, Bool.false_eq_true, if_false]
  split
  · simp
  · split
    · simp
    · split
      · simp
      · simp

end Text

open Text

theorem split_ne_nil {v : String} (written : v ≠ "") (stripped : strip v = v) : split v ≠ [] := by
  have trimmed : trim v.toList = v.toList := by
    have lists := congrArg String.toList stripped
    simpa [strip] using lists
  cases characters : v.toList with
  | nil => exact absurd (String.toList_eq_nil_iff.mp characters) written
  | cons c rest =>
    rw [characters] at trimmed
    simp [split, characters, words_ne_nil (isBlank_of_trim_cons trimmed)]

end Clipping

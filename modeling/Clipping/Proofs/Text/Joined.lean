import Clipping.Proofs.Text.Trimmed
import Clipping.Proofs.Text.Unbroken

/-! The words of a text do not depend on the blanks around it. Where it is escaped, low lines join
them. -/
namespace Clipping.Text

theorem words_append_of_blank {a : List Char} (blank : IsBlankText a) (s : List Char) :
    words (a ++ s) = words s := by
  induction a with
  | nil => rfl
  | cons c a ih =>
    obtain ⟨first, others⟩ := List.forall_mem_cons.mp blank
    rw [List.cons_append, words_blank first, ih others]

theorem words_of_blank {b : List Char} (blank : IsBlankText b) : words b = [] := by
  rw [← List.append_nil b, words_append_of_blank blank]
  rfl

theorem words_append_behind {b : List Char} (blank : IsBlankText b) (s : List Char) :
    words (s ++ b) = words s := by
  induction s with
  | nil => exact words_of_blank blank
  | cons c s ih =>
    cases visible : isBlank c with
    | true => rw [List.cons_append, words_blank visible, words_blank visible, ih]
    | false =>
      cases s with
      | nil =>
        cases b with
        | nil => rfl
        | cons d b =>
          obtain ⟨first, others⟩ := List.forall_mem_cons.mp blank
          rw [words_of_unbroken (List.forall_mem_singleton.mpr visible)]
          exact (words_cons_blank visible first b).trans (congrArg _ (words_of_blank others))
      | cons d s =>
        cases next : isBlank d with
        | true =>
          simp only [List.cons_append, words_blank next] at ih
          simp only [List.cons_append, words_cons_blank visible next, ih]
        | false =>
          cases found : words (d :: s) with
          | nil => exact absurd found (words_ne_nil next)
          | cons word others =>
            rw [words_cons visible next found]
            exact words_cons visible next (ih.trans found)

theorem words_trim (s : List Char) : words (trim s) = words s := by
  obtain ⟨a, b, before, behind, parts⟩ := exists_eq_trim s
  conv_rhs => rw [parts, words_append_of_blank before, words_append_behind behind]

theorem underscored_cons {c : Char} (visible : isBlank c = false) (s : List Char) :
    underscored (c :: s) = c :: underscored s := by
  rw [underscored.eq_def]
  simp [visible]

theorem words_ne_nil_of_mem {s : List Char} {c : Char} (member : c ∈ s) (visible : isBlank c = false) :
    words s ≠ [] := by
  induction s with
  | nil => cases member
  | cons d s ih =>
    cases next : isBlank d with
    | false => exact words_ne_nil next
    | true =>
      rw [words_blank next]
      refine ih ((List.mem_cons.mp member).resolve_left ?_)
      rintro rfl
      exact absurd next (by simp [visible])

/-- A run of blanks before a visible character is a low line; words are joined by one. -/
theorem underscored_eq {s : List Char} (ends : ∀ c ∈ s.getLast?, isBlank c = false) :
    underscored s = (if s.head?.any isBlank then ['_'] else []) ++ ['_'].intercalate (words s) := by
  induction s with
  | nil => rfl
  | cons c s ih =>
    cases s with
    | nil =>
      have visible : isBlank c = false := ends c (by simp)
      simp [underscored, words_of_unbroken (List.forall_mem_singleton.mpr visible), visible]
    | cons d s =>
      have later := ih (by simpa using ends)
      cases visible : isBlank c with
      | false =>
        rw [underscored_cons visible, later]
        cases next : isBlank d with
        | false =>
          have some : words (d :: s) ≠ [] := words_ne_nil next
          obtain ⟨word, others, found⟩ := List.exists_cons_of_ne_nil some
          rw [words_cons visible next found, found]
          cases others <;> simp [List.intercalate, visible, next]
        | true =>
          have some : words s ≠ [] := by
            rw [← words_blank next s]
            exact words_ne_nil_of_mem (List.getLast_mem (List.cons_ne_nil d s))
              (ends _ (by simp [List.getLast?_eq_some_getLast]))
          obtain ⟨word, others, found⟩ := List.exists_cons_of_ne_nil some
          rw [words_cons_blank visible next, words_blank next, found]
          simp [List.intercalate, visible, next]
      | true =>
        rw [words_blank visible, underscored.eq_def]
        cases next : isBlank d <;> simp [visible, next, later]

theorem head_trim (s : List Char) : (trim s).head?.any isBlank = false := by
  cases trimmed : trim s with
  | nil => rfl
  | cons c rest => exact isBlank_of_trim_cons (trimmed ▸ trim_trim s)

theorem getLast_trim {s : List Char} {c : Char} (last : c ∈ (trim s).getLast?) : isBlank c = false := by
  obtain ⟨written, rfl⟩ := List.mem_getLast?_eq_getLast last
  exact Bool.eq_false_iff.mpr (List.rdropWhile_last_not isBlank _ written)

/-- Escaping a value joins its words. -/
theorem escaped_eq (v : String) : Literal.escaped v = String.intercalate "_" (split v) := by
  rw [← String.toList_inj, String.toList_intercalate, Literal.escaped, String.toList_ofList,
    underscored_eq fun c last => getLast_trim last, head_trim, words_trim]
  simp [split, Function.comp_def]

end Clipping.Text

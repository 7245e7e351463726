import Clipping.Markup.Pretty
import Clipping.Proofs.Markup.Printed
import Clipping.Proofs.Text.Trimmed

/-! Indenting changes the layout of a tree only. What is indented is the flat print of a tree
with the same elements, whose texts have other blanks around them and which has some blank
texts more; so without blanks indented and flat markup are the same. -/
namespace Clipping.Markup

open Text

variable {κ : Type}

/-- The second content is the first one in another layout: its texts differ in the blanks around
them, and it may have blank texts more, but none where there is no content. -/
inductive Content.Relaid : Content κ → Content κ → Prop where
  | nil : Relaid nil nil
  | text {run run' rest rest'} : strip run = strip run' → Relaid rest rest' →
      Relaid (text run rest) (text run' rest')
  | element {head inner inner' rest rest'} : (inner = nil → inner' = nil) → Relaid inner inner' →
      Relaid rest rest' → Relaid (element head inner rest) (element head inner' rest')
  | blank {run c c'} : strip run = "" → Relaid c c' → Relaid c (text run c')

structure Element.Relaid (e e' : Element κ) : Prop where
  head : e'.head = e.head
  bare : e.content = .nil → e'.content = .nil
  content : e.content.Relaid e'.content

namespace Content.Relaid

theorem refl (c : Content κ) : c.Relaid c := by
  induction c with
  | nil => exact .nil
  | text run rest ih => exact .text rfl ih
  | element head inner rest ih₁ ih₂ => exact .element id ih₁ ih₂

theorem trans {a b c : Content κ} (first : a.Relaid b) (second : b.Relaid c) : a.Relaid c := by
  induction second generalizing a with
  | nil => exact first
  | text alike _ ih =>
    cases first with
    | text before rest => exact .text (before.trans alike) (ih rest)
    | blank none rest => exact .blank (alike.symm.trans none) (ih rest)
  | element bare _ _ ih₁ ih₂ =>
    cases first with
    | element before inner rest => exact .element (bare ∘ before) (ih₁ inner) (ih₂ rest)
  | blank none _ ih => exact .blank none (ih first)

theorem append_blank {c c' : Content κ} (relaid : c.Relaid c') {run : String} (none : strip run = "") :
    c.Relaid (c'.append (.text run .nil)) := by
  induction relaid with
  | nil => exact .blank none .nil
  | text alike _ ih => exact .text alike ih
  | element bare inner _ _ ih => exact .element bare inner ih
  | blank before _ ih => exact .blank before ih

end Content.Relaid

/-! Content that is only text. -/

namespace Content

theorem onlyText?_text {run : String} {rest : Content κ} {s : String}
    (found : (text run rest).onlyText? = some s) : ∃ s', rest.onlyText? = some s' ∧ s = run ++ s' := by
  obtain ⟨s', later, same⟩ := Option.map_eq_some_iff.mp found
  exact ⟨s', later, same.symm⟩

/-- Only text is printed as that text. -/
theorem print_of_onlyText? {c : Content κ} {s : String} (only : c.onlyText? = some s) :
    c.print = escapeText s := by
  induction c generalizing s with
  | nil =>
    obtain rfl : "" = s := Option.some.inj only
    rfl
  | text run rest ih =>
    obtain ⟨s', later, rfl⟩ := onlyText?_text only
    simp [print, ih later, escapeText]
  | element head inner rest => cases only

/-- The blanks before the text can be left out. -/
theorem exists_relaid_start {c : Content κ} {s : String} (only : c.onlyText? = some s) :
    ∃ c', c.Relaid c' ∧ c'.onlyText? = some (String.ofList (dropBlank s.toList)) := by
  induction c generalizing s with
  | nil =>
    obtain rfl : "" = s := Option.some.inj only
    exact ⟨nil, .nil, rfl⟩
  | text run rest ih =>
    obtain ⟨s', later, rfl⟩ := onlyText?_text only
    by_cases blank : IsBlankText run.toList
    · obtain ⟨rest', relaid, text⟩ := ih later
      have none : strip run = strip "" := strip_eq_empty_iff.mpr blank
      refine ⟨.text "" rest', .text none relaid, ?_⟩
      simp [onlyText?, text, dropBlank_append_of_blank blank]
    · have shown : dropBlank run.toList ≠ [] := fun none => blank (dropBlank_eq_nil_iff.mp none)
      have same : strip run = strip (String.ofList (dropBlank run.toList)) := by
        rw [strip_eq_strip_iff, String.toList_ofList, trim_dropBlank]
      refine ⟨.text (String.ofList (dropBlank run.toList)) rest, .text same (.refl rest), ?_⟩
      simp [onlyText?, later, dropBlank_append_of_ne shown]
  | element head inner rest => cases only

/-- The blanks behind the text can be left out. -/
theorem exists_relaid_end {c : Content κ} {s : String} (only : c.onlyText? = some s) :
    ∃ c', c.Relaid c' ∧ c'.onlyText? = some (String.ofList (s.toList.rdropWhile isBlank)) := by
  induction c generalizing s with
  | nil =>
    obtain rfl : "" = s := Option.some.inj only
    exact ⟨nil, .nil, rfl⟩
  | text run rest ih =>
    obtain ⟨s', later, rfl⟩ := onlyText?_text only
    obtain ⟨rest', relaid, text⟩ := ih later
    by_cases blank : IsBlankText s'.toList
    · have none : s'.toList.rdropWhile isBlank = [] := List.rdropWhile_eq_nil_iff.mpr blank
      have same : strip run = strip (String.ofList (run.toList.rdropWhile isBlank)) := by
        rw [strip_eq_strip_iff, String.toList_ofList, trim_rdropWhile]
      refine ⟨.text (String.ofList (run.toList.rdropWhile isBlank)) rest', .text same relaid, ?_⟩
      simp [onlyText?, text, none, rdropWhile_append_of_blank blank]
    · refine ⟨.text run rest', .text rfl relaid, ?_⟩
      simp [onlyText?, text, rdropWhile_append_of_not_blank blank]
  | element head inner rest => cases only

/-- Text that is stripped as a whole is stripped run by run. -/
theorem exists_relaid_strip {c : Content κ} {s : String} (only : c.onlyText? = some s) :
    ∃ c', c.Relaid c' ∧ c'.onlyText? = some (strip s) := by
  obtain ⟨c', start, first⟩ := exists_relaid_start only
  obtain ⟨c'', ending, last⟩ := exists_relaid_end first
  refine ⟨c'', start.trans ending, ?_⟩
  rw [last, String.toList_ofList]
  rfl

end Content

/-! Lines. -/

def broken (lines : List String) : String := String.join (lines.map ("\n" ++ ·))

theorem broken_cons (line : String) (lines : List String) :
    broken (line :: lines) = "\n" ++ line ++ broken lines := by
  rw [broken, List.map_cons, String.join_cons, broken]

theorem intercalate_cons (first : String) (lines : List String) :
    String.intercalate "\n" (first :: lines) = first ++ broken lines := by
  induction lines generalizing first with
  | nil => simp [broken]
  | cons line rest ih => simp [String.intercalate_cons_cons, ih, broken_cons, String.append_assoc]

theorem broken_concat (lines : List String) (last : String) :
    broken (lines ++ [last]) = broken lines ++ "\n" ++ last := by
  induction lines with
  | nil => simp [broken]
  | cons line rest ih => simp [broken_cons, ih, String.append_assoc]

theorem isBlankText_margin (i : Indentation) (depth : Nat) : IsBlankText (i.margin depth).toList := by
  intro c member
  rw [Indentation.margin, String.toList_ofList] at member
  obtain rfl := List.eq_of_mem_replicate member
  rfl

theorem isBlankText_break (i : Indentation) (depth : Nat) :
    IsBlankText ("\n" ++ i.margin depth).toList := by
  rw [String.toList_append]
  exact isBlankText_append.mpr ⟨by simp [IsBlankText]; decide, isBlankText_margin i depth⟩

theorem escapeText_append (s t : String) : escapeText (s ++ t) = escapeText s ++ escapeText t := by
  simp [escapeText]

/-- No blank is escaped. -/
theorem escapeText_of_blank {s : String} (blank : IsBlankText s.toList) : escapeText s = s := by
  have plain : ∀ t : List Char, IsBlankText t → t.flatMap escapeTextChar = t := by
    intro t all
    induction t with
    | nil => rfl
    | cons c rest ih =>
      obtain ⟨first, others⟩ := List.forall_mem_cons.mp all
      rcases escapeTextChar_cases c with ⟨rfl, -⟩ | ⟨rfl, -⟩ | ⟨rfl, -⟩ | ⟨-, code⟩
      · cases first
      · cases first
      · cases first
      · rw [List.flatMap_cons, code, ih others]
        rfl
  rw [escapeText, plain s.toList blank, String.ofList_toList]

theorem Content.print_append (c other : Content κ) : (c.append other).print = c.print ++ other.print := by
  induction c with
  | nil => simp [append, print]
  | text run rest ih => simp [append, print, ih, String.append_assoc]
  | element head inner rest _ ih => simp [append, print, ih, String.append_assoc]

/-- Tags around lines are tags around the lines' content in another layout. -/
theorem Head.exists_relaid_around (i : Indentation) (depth : Nat) (h : Head κ) {inner laid : Content κ}
    {lines : List String} (relaid : inner.Relaid laid) (printed : laid.print = broken lines) :
    ∃ inner', inner.Relaid inner' ∧
      h.around i depth lines = i.margin depth ++ (h.opening ++ inner'.print ++ h.closing) := by
  cases lines with
  | nil => exact ⟨laid, relaid, by simp [around, printed, broken, String.append_assoc]⟩
  | cons line rest =>
    have blank := isBlankText_break i depth
    refine ⟨laid.append (.text ("\n" ++ i.margin depth) .nil),
      relaid.append_blank (strip_eq_empty_iff.mpr blank), ?_⟩
    rw [Content.print_append, printed, Content.print, Content.print, escapeText_of_blank blank, around,
      if_neg (by simp), List.append_assoc, List.singleton_append, intercalate_cons, broken_concat]
    simp [String.append_assoc]

/-- An element is indented as the flat print of another layout of it, given one of its lines. -/
theorem Head.exists_relaid_indented (i : Indentation) (depth : Nat) (h : Head κ) {inner laid : Content κ}
    {lines : List String} (relaid : inner.Relaid laid) (printed : laid.print = broken lines) :
    ∃ inner', (inner = .nil → inner' = .nil) ∧ inner.Relaid inner' ∧
      h.indented i depth inner.onlyText? lines = i.margin depth ++ Element.print ⟨h, inner'⟩ := by
  cases void : isVoid h.tag with
  | true => exact ⟨inner, fun bare => bare, .refl inner, by simp [indented, Element.print, void]⟩
  | false =>
    simp only [indented, Element.print, void, Bool.false_eq_true, if_false]
    obtain ⟨spread, relaidSpread, around⟩ := h.exists_relaid_around i depth relaid printed
    cases only : inner.onlyText? with
    | none =>
      refine ⟨spread, fun bare => ?_, relaidSpread, around⟩
      rw [bare] at only
      cases only
    | some s =>
      obtain ⟨stripped, relaidStripped, text⟩ := Content.exists_relaid_strip only
      simp only [Option.map_some]
      by_cases none : (strip s).isEmpty
      · by_cases bare : inner = .nil
        · exact ⟨.nil, fun _ => rfl, bare ▸ .nil,
            by simp [none, Head.around, Content.print, String.append_assoc]⟩
        · have empty : stripped.print = "" := by
            rw [Content.print_of_onlyText? text, String.isEmpty_iff.mp none]
            rfl
          exact ⟨stripped, fun other => absurd other bare, relaidStripped,
            by simp [none, Head.around, empty, String.append_assoc]⟩
      · have written : inner ≠ .nil := by
          rintro rfl
          cases only
          exact none rfl
        rw [if_neg none]
        split
        · exact ⟨stripped, fun bare => absurd bare written, relaidStripped,
            by simp [Content.print_of_onlyText? text, String.append_assoc]⟩
        · exact ⟨spread, fun bare => absurd bare written, relaidSpread, around⟩

/-- The lines of a content are the flat print of another layout of it. -/
theorem Content.exists_relaid_lines (i : Indentation) (depth : Nat) (c : Content κ) :
    ∃ c', c.Relaid c' ∧ c'.print = broken (c.lines i depth) := by
  induction c generalizing depth with
  | nil => exact ⟨nil, .nil, rfl⟩
  | text run rest ih =>
    obtain ⟨rest', relaid, printed⟩ := ih depth
    by_cases none : (strip run).isEmpty
    · have same : strip run = strip "" := String.isEmpty_iff.mp none
      refine ⟨text "" rest', .text same relaid, ?_⟩
      simp [print, printed, lines, none, escapeText]
    · have blank := isBlankText_break i depth
      have same : strip run = strip ("\n" ++ i.margin depth ++ strip run) := by
        rw [strip_eq_strip_iff, String.toList_append, trim_append_of_blank blank, toList_strip, trim_trim]
      refine ⟨text ("\n" ++ i.margin depth ++ strip run) rest', .text same relaid, ?_⟩
      rw [print, escapeText_append, escapeText_of_blank blank, printed]
      simp [lines, none, broken_cons, String.append_assoc]
  | element head inner rest ih₁ ih₂ =>
    obtain ⟨laid, relaidInner, printedInner⟩ := ih₁ (depth + 1)
    obtain ⟨rest', relaidRest, printedRest⟩ := ih₂ depth
    obtain ⟨inner', bare, relaid, indented⟩ :=
      head.exists_relaid_indented i depth relaidInner printedInner
    have blank := isBlankText_break i depth
    refine ⟨text ("\n" ++ i.margin depth) (element head inner' rest'),
      .blank (strip_eq_empty_iff.mpr blank) (.element bare relaid relaidRest), ?_⟩
    rw [lines, broken_cons, indented, ← printedRest, print, print, escapeText_of_blank blank]
    simp [Element.print, String.append_assoc]

theorem Element.exists_relaid_indented (i : Indentation) (e : Element κ) :
    ∃ e', e.Relaid e' ∧ e.indented i = e'.print := by
  obtain ⟨laid, relaidInner, printed⟩ := e.content.exists_relaid_lines i 1
  obtain ⟨inner', bare, relaid, indented⟩ := e.head.exists_relaid_indented i 0 relaidInner printed
  refine ⟨⟨e.head, inner'⟩, ⟨rfl, bare, relaid⟩, ?_⟩
  have root : i.margin 0 = "" := by simp [Indentation.margin]
  rw [Element.indented, indented, root, String.empty_append]

/-! Without blanks. -/

def unspaced (s : String) : String := String.ofList (s.toList.filter fun c => !isBlank c)

theorem unspaced_append (s t : String) : unspaced (s ++ t) = unspaced s ++ unspaced t := by
  simp [unspaced]

theorem unspaced_strip (s : String) : unspaced (strip s) = unspaced s := by
  rw [unspaced, toList_strip, filter_trim, unspaced]

/-- Escaping adds no blanks and takes none away. -/
theorem unspaced_escapeText (s : String) : unspaced (escapeText s) = escapeText (unspaced s) := by
  have chars : ∀ t : List Char, (t.flatMap escapeTextChar).filter (fun c => !isBlank c) =
      (t.filter fun c => !isBlank c).flatMap escapeTextChar := by
    intro t
    induction t with
    | nil => rfl
    | cons c t ih =>
      rw [List.flatMap_cons, List.filter_append, ih]
      rcases escapeTextChar_cases c with ⟨rfl, code⟩ | ⟨rfl, code⟩ | ⟨rfl, code⟩ | ⟨-, code⟩
      · rfl
      · rfl
      · rfl
      · cases blank : isBlank c with
        | true => simp [code, blank]
        | false => simp [code, blank]
  rw [unspaced, escapeText, String.toList_ofList, chars, escapeText, unspaced, String.toList_ofList]

theorem unspaced_escapeText_congr {run run' : String} (alike : strip run = strip run') :
    unspaced (escapeText run) = unspaced (escapeText run') := by
  rw [unspaced_escapeText, ← unspaced_strip, alike, unspaced_strip, ← unspaced_escapeText]

/-- Another layout is printed with the same characters, up to blanks. -/
theorem Content.Relaid.unspaced_print {c c' : Content κ} (relaid : c.Relaid c') :
    unspaced c'.print = unspaced c.print := by
  induction relaid with
  | nil => rfl
  | text alike _ ih =>
    rw [print, print, unspaced_append, unspaced_append, ih, unspaced_escapeText_congr alike]
  | element _ _ _ ih₁ ih₂ => simp only [print, apply_ite unspaced, unspaced_append, ih₁, ih₂]
  | blank none _ ih =>
    have nothing := unspaced_escapeText_congr (none.trans (show "" = strip "" from rfl))
    rw [print, unspaced_append, ih, nothing]
    exact String.empty_append

theorem Element.Relaid.unspaced_print {e e' : Element κ} (relaid : e.Relaid e') :
    unspaced e'.print = unspaced e.print := by
  rw [print, print, relaid.head]
  simp only [apply_ite unspaced, unspaced_append, relaid.content.unspaced_print]

/-- Whatever tree is indented, it is printed in another layout, and up to blanks as it is printed
flat. So is the tree that any reader gives for a text; a text without one stays as it is. -/
theorem indent_relaid (read : Reader) (i : Indentation) (m : String) :
    (∀ e : Element κ, ∃ e', e.Relaid e' ∧ e.indented i = e'.print ∧
      unspaced (e.indented i) = unspaced e.print) ∧
    match read m with
    | .ok e => ∃ e', e.Relaid e' ∧ indentBy read i m = e'.print ∧
        unspaced (indentBy read i m) = unspaced e.print
    | .error _ => indentBy read i m = m := by
  have laid {μ : Type} (e : Element μ) : ∃ e', e.Relaid e' ∧ e.indented i = e'.print ∧
      unspaced (e.indented i) = unspaced e.print := by
    obtain ⟨e', relaid, printed⟩ := e.exists_relaid_indented i
    exact ⟨e', relaid, printed, printed ▸ relaid.unspaced_print⟩
  refine ⟨laid, ?_⟩
  unfold indentBy
  cases read m with
  | ok e => exact laid e
  | error fault => rfl

end Clipping.Markup

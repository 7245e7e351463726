import Clipping.Proofs.Markup.Clearing
import Clipping.Proofs.Markup.Rebuilt

/-! What is printed of a tree that was read gives the tree again, up to how its texts are cut
and which white space stands alone. Four kinds of trees are read otherwise: raw content with
characters that text escapes, an element of an empty tag that has content all the same, an
empty value before a name that starts with a sign, and a tag that ends in blanks. -/
namespace Clipping.Markup

open Token Fragment

variable {κ μ : Type}

namespace Content

def spaced (run : List Char) : List Char := if run.all Partial.isSpace then [' '] else run

/-- The content behind a run of text, up to how texts are cut and which white space stands alone. -/
def essence (before : List Char) : Content κ → Content κ
  | nil => afterText spaced before nil
  | text run rest => rest.essence (before ++ run.toList)
  | element head inner rest =>
    afterText spaced before (element head (inner.essence []) (rest.essence []))

theorem spaced_writing (kept : Bool) (run : List Char) : spaced (writing kept run) = spaced run := by
  cases kept with
  | true => rfl
  | false =>
    simp only [writing, Bool.false_eq_true, if_false, spaced, Partial.settled]
    split
    · split <;> rfl
    · rfl

theorem writing_isEmpty {run : List Char} (written : run.isEmpty = false) (kept : Bool) :
    (writing kept run).isEmpty = false := by
  cases kept with
  | true => exact written
  | false =>
    simp only [writing, Bool.false_eq_true, if_false, Partial.settled]
    split
    · split <;> rfl
    · exact written

/-- How a text is written does not change what it is. -/
theorem essence_afterText (kept : Bool) (before : List Char) {c : Content κ}
    (ends : ∀ run, c.essence run = afterText spaced run (c.essence [])) :
    (afterText (writing kept) before c).essence [] = afterText spaced before (c.essence []) := by
  cases empty : before.isEmpty with
  | true => simp [afterText, empty]
  | false =>
    have written := writing_isEmpty empty kept
    simp only [afterText, empty, Bool.false_eq_true, if_false, essence, List.nil_append,
      String.toList_ofList, ends (writing kept before), written, spaced_writing]

theorem essence_reread (kept : Bool) (before : List Char) (c : Content κ) :
    (c.reread kept before).essence [] = c.essence before := by
  induction c generalizing kept before with
  | nil => exact essence_afterText kept before fun run => rfl
  | text run rest ih => exact ih kept _
  | element head inner rest ih₁ ih₂ =>
    rw [reread, essence_afterText kept before fun run => rfl]
    simp [essence, ih₁, ih₂, afterText]

end Content

def Element.essence (e : Element κ) : Element κ := ⟨e.head, e.content.essence []⟩

theorem Element.essence_reread (e : Element κ) : e.reread.essence = e.essence := by
  rw [essence, reread, Content.essence_reread]
  rfl

namespace Content

theorem heads_afterText (write : List Char → List Char) (run : List Char) (c : Content κ) :
    (afterText write run c).heads = c.heads := by
  unfold afterText
  split <;> rfl

theorem heads_essence (before : List Char) (c : Content κ) : (c.essence before).heads = c.heads := by
  induction c generalizing before with
  | nil => exact heads_afterText spaced before nil
  | text run rest ih => exact ih _
  | element head inner rest ih₁ ih₂ => simp [essence, heads_afterText, heads, ih₁, ih₂]

theorem mapNumbered_afterText (f : Nat → Head κ → Head μ) (n : Nat) (write : List Char → List Char)
    (run : List Char) (c : Content κ) :
    (afterText write run c).mapNumbered f n = afterText write run (c.mapNumbered f n) := by
  unfold afterText
  split <;> rfl

theorem essence_mapNumbered (f : Nat → Head κ → Head μ) (n : Nat) (before : List Char) (c : Content κ) :
    (c.mapNumbered f n).essence before = (c.essence before).mapNumbered f n := by
  induction c generalizing n before with
  | nil => exact (mapNumbered_afterText f n spaced before nil).symm
  | text run rest ih => exact ih n _
  | element head inner rest ih₁ ih₂ =>
    simp [mapNumbered, essence, mapNumbered_afterText, heads_essence, ih₁, ih₂]

/-- Which objects the elements are has no say in how they are printed and read. -/
theorem isBare_of_mapNumbered {f : Nat → Head κ → Head μ} {n : Nat} {c : Content κ}
    (bare : (c.mapNumbered f n).IsBare) : c.IsBare := by
  induction c generalizing n with
  | nil => trivial
  | text run rest ih => exact ⟨bare.1, ih bare.2⟩
  | element head inner rest _ ih => exact ih bare

theorem isFaithful_of_mapNumbered {n : Nat} {c : Content κ}
    (faithful : (c.mapNumbered (fun i h => h.withKey i) n).IsFaithful) : c.IsFaithful := by
  induction c generalizing n with
  | nil => trivial
  | text run rest ih => exact ih faithful
  | element head inner rest ih₁ ih₂ =>
    obtain ⟨tags, empty, bare, inside, others⟩ := faithful
    refine ⟨⟨tags.attributes, tags.tag⟩, fun own => ?_, fun raw => isBare_of_mapNumbered (bare raw),
      ih₁ inside, ih₂ others⟩
    have none := empty own
    cases inner with
    | nil => rfl
    | text run rest => cases none
    | element head inner rest => cases none

end Content

theorem Element.IsFaithful.of_numbered {e : Element κ} (faithful : e.numbered.IsFaithful) :
    e.IsFaithful := by
  have whole : (Content.element e.head e.content .nil).IsFaithful :=
    Content.isFaithful_of_mapNumbered (n := 0)
      ⟨faithful.head, faithful.empty, faithful.raw, faithful.content, trivial⟩
  obtain ⟨head, empty, raw, content, -⟩ := whole
  exact ⟨head, empty, raw, content⟩

theorem Content.print_numbered (n : Nat) (c : Content κ) :
    (c.mapNumbered (fun i h => h.withKey i) n).print = c.print := by
  induction c generalizing n with
  | nil => rfl
  | text run rest ih => simp [mapNumbered, print, ih]
  | element head inner rest ih₁ ih₂ =>
    simp only [mapNumbered, print, ih₁, ih₂]
    rfl

theorem Element.print_numbered (e : Element κ) : e.numbered.print = e.print := by
  simp only [numbered, mapNumbered, print, Content.print_numbered]
  rfl

theorem Element.essence_numbered (e : Element κ) : e.numbered.essence = e.essence.numbered := by
  simp [numbered, mapNumbered, essence, Content.essence_mapNumbered]

/-- A tree that is read comes back from what is printed of it. -/
theorem Element.read_print {m : String} {t : Element Nat} (read : Element.read m = .ok t)
    (faithful : t.IsFaithful) :
    ∃ t', Element.read t.print = .ok t' ∧ t'.essence = t.essence := by
  obtain ⟨e, rfl, scanned⟩ := isRead_of_read read
  refine ⟨e.reread.numbered, ?_, ?_⟩
  · rw [print_numbered]
    exact read_print_eq scanned faithful.of_numbered
  · rw [essence_numbered, essence_numbered, essence_reread]

theorem isTag_p : IsTag "p" := by decide

def cutText : Element Unit :=
  ⟨⟨(), "p", .ofList [("title", "&\x22"), ("hidden", "")]⟩, .text "a" (.text "b" .nil)⟩

theorem read_cutText :
    Element.read "<p title=\x22&amp;&quot;\x22 hidden>a<!---->b</p>" = .ok cutText.numbered := by
  have title : IsAttributeName "title" := ⟨by decide, 't', "itle".toList, rfl, rfl, List.all_eq_true.mp rfl⟩
  have hidden : IsAttributeName "hidden" := ⟨by decide, 'h', "idden".toList, rfl, rfl, List.all_eq_true.mp rfl⟩
  have names : ∀ entry ∈ cutText.head.attributes.entries, IsAttributeName entry.1 :=
    List.forall_mem_cons.mpr ⟨title, List.forall_mem_singleton.mpr hidden⟩
  have start := scans_start (h := cutText.head) ⟨isTag_p, names⟩ (by decide)
    ['a', '<', '!', '-', '-', '-', '-', '>', 'b', '<', '/', 'p', '>']
  have comment : Scans none ['<', '!', '-', '-', '-', '-', '>', 'b', '<', '/', 'p', '>'] [.boundary] none
    ['b', '<', '/', 'p', '>'] := .of_next fun _ => rfl
  exact Element.read_of_scans (start.trans ((scans_text ['a'] _).trans (comment.trans
    ((scans_text ['b'] _).trans (scans_finish isTag_p (by decide) []))))) rfl

theorem read_print_cutText :
    Element.read "<p title=\x22&amp;&quot;\x22 hidden>a<!---->b</p>" = .ok cutText.numbered ∧
    cutText.numbered.IsFaithful ∧
    ∃ t', Element.read cutText.numbered.print = .ok t' ∧ t'.essence = cutText.numbered.essence :=
  have faithful : cutText.numbered.IsFaithful := ⟨⟨by decide, by decide⟩, nofun, nofun, trivial⟩
  ⟨read_cutText, faithful, Element.read_print read_cutText faithful⟩

/-- What is printed of the tree that is read gives another tree. -/
def IsLost (m : String) : Prop :=
  ∃ t t' : Element Nat, Element.read m = .ok t ∧ Element.read t.print = .ok t' ∧ t'.essence ≠ t.essence

def plainElement (tag : String) (inner : Content Unit) : Element Unit := ⟨⟨(), tag, .empty⟩, inner⟩

def plainContent (tag : String) (inner rest : Content Unit) : Content Unit :=
  .element ⟨(), tag, .empty⟩ inner rest

/-- The text of a script is escaped like any other, but no reference in it is read. -/
theorem isLost_script : IsLost "<script>a&b</script>" := by
  have script : IsTag "script" := by decide
  refine ⟨(plainElement "script" (.text "a&b" .nil)).numbered,
    (plainElement "script" (.text "a&amp;b" .nil)).numbered, ?_, ?_, ?_⟩
  · exact Element.read_of_scans ((scans_bare script _).trans
      (@scans_raw "script" script rfl "a&b".toList (by simp) [])) rfl
  · exact Element.read_of_scans ((scans_bare script _).trans
      (@scans_raw "script" script rfl "a&amp;b".toList (by simp) [])) rfl
  · intro same
    exact absurd (congrArg Element.print same) (by decide)

/-- The second `br` takes the text, since the end of the first is still to come. -/
theorem isLost_br : IsLost "<p><br><br/>x</p>" := by
  have br : IsTag "br" := by decide
  have finish := scans_finish isTag_p (by decide) []
  refine ⟨(plainElement "p" (plainContent "br" .nil (plainContent "br" (.text "x" .nil) .nil))).numbered,
    (plainElement "p" (plainContent "br" .nil (plainContent "br" .nil .nil))).numbered, ?_, ?_, ?_⟩
  · exact Element.read_of_scans ((scans_bare isTag_p _).trans ((scans_bare br _).trans
      ((scans_closed br _).trans ((scans_text ['x'] _).trans finish)))) rfl
  · exact Element.read_of_scans ((scans_bare isTag_p _).trans ((scans_bare br _).trans
      ((scans_bare br _).trans finish))) rfl
  · intro same
    have inner := (Content.element.inj (Content.element.inj (Element.mk.inj same).2).2.2).2.1
    cases inner

/-- The empty value takes the sign that the next name starts with. -/
theorem isLost_sign : IsLost "<x a=\x22\x22 =b></x>" := by
  have x : IsTag "x" := by decide
  have finish := scans_finish x (by decide) []
  have names : lower "a" = "a" ∧ lower "=b" = "=b" := by decide
  have values : Entity.unescape [] = [] ∧ Entity.unescape ['b'] = ['b'] := by
    simp [Entity.unescape]
  have ends (ready : Bool) := Tag.attributes_nil ready ['<', '/', 'x', '>']
  have bare := @Tag.attributes_cons ['=', 'b', '>', '<', '/', 'x', '>'] _ _ ⟨['=', 'b'], [], false⟩ _
    rfl (ends _)
  have two : Tag.attributes true ['a', '=', '\x22', '\x22', ' ', '=', 'b', '>', '<', '/', 'x', '>'] =
      ([("a", ""), ("=b", "")], ['>', '<', '/', 'x', '>']) := by
    simpa [values, names] using @Tag.attributes_cons
      ['a', '=', '\x22', '\x22', ' ', '=', 'b', '>', '<', '/', 'x', '>'] _ _ ⟨['a'], [], true⟩ _ rfl bare
  have one : Tag.attributes true ['a', ' ', '=', 'b', '>', '<', '/', 'x', '>'] =
      ([("a", "b")], ['>', '<', '/', 'x', '>']) := by
    simpa [values, names] using @Tag.attributes_cons
      ['a', ' ', '=', 'b', '>', '<', '/', 'x', '>'] _ _ ⟨['a'], ['b'], false⟩ _ rfl (ends _)
  refine ⟨Element.numbered ⟨⟨(), "x", .ofList [("a", ""), ("=b", "")]⟩, .nil⟩,
    Element.numbered ⟨⟨(), "x", .ofList [("a", "b")]⟩, .nil⟩, ?_, ?_, ?_⟩
  · exact Element.read_of_scans ((scans_attributes x rfl two).trans finish) rfl
  · exact Element.read_of_scans ((scans_attributes x rfl one).trans finish) rfl
  · intro same
    exact absurd (congrArg Element.print same) (by decide)

/-- The end tag is read without the blank at the end of its tag. -/
theorem isLost_blank : IsLost "<p><a\x0b/>y</p>" := by
  have a : IsTag "a\x0b" := by decide
  have finish := scans_finish isTag_p (by decide) []
  have other : Scans none ("</a\x0b>y</p>".toList) [.finish "a"] none "y</p>".toList := by
    refine .of_next fun again => ?_
    have closed : Tag.closing? "a\x0b>y</p>".toList = some ("a", "y</p>".toList) := by decide +kernel
    show Step.endTag again "a\x0b>y</p>".toList = _
    rw [Step.endTag, closed]
    rfl
  refine ⟨(plainElement "p" (plainContent "a\x0b" .nil (.text "y" .nil))).numbered,
    (plainElement "p" (plainContent "a\x0b" (.text "y" .nil) .nil)).numbered, ?_, ?_, ?_⟩
  · exact Element.read_of_scans ((scans_bare isTag_p _).trans ((scans_closed a _).trans
      ((scans_text ['y'] _).trans finish))) rfl
  · exact Element.read_of_scans ((scans_bare isTag_p _).trans ((scans_bare a _).trans
      (other.trans ((scans_text ['y'] _).trans finish)))) rfl
  · intro same
    exact absurd (congrArg Element.print same) (by decide)

/-- Each of the four kinds of trees is lost. -/
theorem print_loses :
    IsLost "<script>a&b</script>" ∧ IsLost "<p><br><br/>x</p>" ∧ IsLost "<x a=\x22\x22 =b></x>" ∧
      IsLost "<p><a\x0b/>y</p>" :=
  ⟨isLost_script, isLost_br, isLost_sign, isLost_blank⟩

end Clipping.Markup

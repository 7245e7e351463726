import Clipping.Proofs.Markup.Relaid
import Clipping.Proofs.Markup.Reread

/-! Indented markup is settled: indenting it once more changes nothing. The lines of a tree
follow from its gist, which knows adjacent texts only as one and no blanks around them. Indenting
keeps the gist, since it changes the layout only, and so does reading what was printed. -/
namespace Clipping.Markup

open Text Token Fragment

variable {κ μ : Type}

namespace Content

/-- What the content behind a run of text says: its adjacent texts joined and without the blanks
around them, and no blank ones. -/
def gist (before : List Char) : Content κ → Content κ
  | nil => afterText trim (trim before) nil
  | text run rest => rest.gist (before ++ run.toList)
  | element head inner rest => afterText trim (trim before) (element head (inner.gist []) (rest.gist []))

def startsText : Content κ → Prop
  | nil => False
  | text _ _ => True
  | element _ _ _ => False

def IsUncut : Content κ → Prop
  | nil => True
  | text _ rest => ¬rest.startsText ∧ rest.IsUncut
  | element _ inner rest => inner.IsUncut ∧ rest.IsUncut

end Content

/-! Reading keeps the gist. -/

/-- Where spaces are settled, blanks stay blanks and other text stays as it is. -/
theorem trim_writing (kept : Bool) (run : List Char) : trim (Content.writing kept run) = trim run := by
  cases kept with
  | true => rfl
  | false =>
    simp only [Content.writing, Bool.false_eq_true, if_false, Partial.settled]
    split
    · next spaces =>
      have blank : IsBlankText run := by
        intro c member
        have space := List.all_eq_true.mp spaces c member
        simp only [Partial.isSpace, List.contains_iff_mem, List.mem_cons, List.not_mem_nil, or_false] at space
        rcases space with rfl | rfl | rfl | rfl | rfl <;> rfl
      rw [trim_eq_nil_iff.mpr blank]
      split <;> rfl
    · rfl

namespace Content

theorem gist_afterText (kept : Bool) (before : List Char) {c : Content κ}
    (ends : ∀ run, c.gist run = afterText trim (trim run) (c.gist [])) :
    (afterText (writing kept) before c).gist [] = afterText trim (trim before) (c.gist []) := by
  cases empty : before.isEmpty with
  | true =>
    obtain rfl := List.isEmpty_iff.mp empty
    rfl
  | false => simp [afterText, empty, gist, ends (writing kept before), trim_writing]

theorem gist_reread (kept : Bool) (before : List Char) (c : Content κ) :
    (c.reread kept before).gist [] = c.gist before := by
  induction c generalizing kept before with
  | nil => exact gist_afterText kept before fun run => rfl
  | text run rest ih => exact ih kept _
  | element head inner rest ih₁ ih₂ =>
    rw [reread, gist_afterText kept before fun run => rfl]
    simp only [gist, ih₁, ih₂]
    rfl

theorem isUncut_afterText (write : List Char → List Char) (before : List Char) {c : Content κ}
    (starts : ¬c.startsText) (uncut : c.IsUncut) : (afterText write before c).IsUncut := by
  unfold afterText
  split
  · exact uncut
  · exact ⟨starts, uncut⟩

/-- Reading joins adjacent texts. -/
theorem isUncut_reread (kept : Bool) (before : List Char) (c : Content κ) :
    (c.reread kept before).IsUncut := by
  induction c generalizing kept before with
  | nil => exact isUncut_afterText _ before (fun starts => starts) trivial
  | text run rest ih => exact ih kept _
  | element head inner rest ih₁ ih₂ =>
    exact isUncut_afterText _ before (fun starts => starts) ⟨ih₁ _ [], ih₂ kept []⟩

end Content

/-! Another layout has the same gist. -/

/-- Blanks before a text that is not cut do not matter. -/
theorem trim_behind_blank {before before' : List Char} (same : trim before = trim before')
    (blank : IsBlankText before) (run run' : String) (alike : strip run = strip run') :
    trim (before ++ run.toList) = trim (before' ++ run'.toList) := by
  have blank' : IsBlankText before' := trim_eq_nil_iff.mp (same ▸ trim_eq_nil_iff.mpr blank)
  rw [trim_append_of_blank blank, trim_append_of_blank blank']
  exact strip_eq_strip_iff.mp alike

theorem Content.Relaid.gist_eq {c c' : Content κ} (relaid : c.Relaid c') (uncut : c.IsUncut)
    {before before' : List Char} (same : trim before = trim before')
    (first : c.startsText → IsBlankText before) : c'.gist before' = c.gist before := by
  induction relaid generalizing before before' with
  | nil => rw [gist, gist, same]
  | @text run run' rest rest' alike _ ih =>
    exact ih uncut.2 (trim_behind_blank same (first trivial) run run' alike) fun starts =>
      absurd starts uncut.1
  | element _ _ _ ih₁ ih₂ =>
    rw [gist, gist, same, ih₁ uncut.1 rfl fun _ => isBlankText_nil, ih₂ uncut.2 rfl fun _ => isBlankText_nil]
  | @blank run c c' none _ ih =>
    refine ih uncut ?_ first
    rw [trim_append_blank (strip_eq_empty_iff.mp none), same]

/-! The lines of a content follow from its gist. -/

namespace Content

theorem lines_text (i : Indentation) (depth : Nat) {run run' : String} (alike : strip run = strip run')
    (rest : Content κ) : (text run rest).lines i depth = (text run' rest).lines i depth := by
  simp only [lines, alike]

theorem lines_blank (i : Indentation) (depth : Nat) {run : String} (blank : strip run = "")
    (rest : Content κ) : (text run rest).lines i depth = rest.lines i depth := by
  simp [lines, blank]

theorem lines_start (i : Indentation) (depth : Nat) (c : Content κ) :
    (text (String.ofList []) c).lines i depth = c.lines i depth :=
  lines_blank i depth (strip_eq_empty_iff.mpr (by simp [isBlankText_nil])) c

/-- Trimmed text makes the same lines. -/
theorem lines_afterText (i : Indentation) (depth : Nat) (before : List Char) (c : Content κ) :
    (afterText trim (trim before) c).lines i depth = (text (String.ofList before) c).lines i depth := by
  unfold afterText
  split
  · next empty =>
    have blank : strip (String.ofList before) = "" :=
      strip_eq_empty_iff.mpr (by simpa using trim_eq_nil_iff.mp (List.isEmpty_iff.mp empty))
    rw [lines_blank i depth blank]
  · have alike : strip (String.ofList (trim (trim before))) = strip (String.ofList before) := by
      simp [strip_eq_strip_iff, trim_trim]
    exact lines_text i depth alike c

theorem onlyText?_gist_before (before : List Char) (c : Content κ) :
    (c.gist before).onlyText?.map strip = (text (String.ofList before) c).onlyText?.map strip := by
  induction c generalizing before with
  | nil =>
    unfold gist afterText
    split
    · next empty =>
      have none : trim before = trim [] := List.isEmpty_iff.mp empty
      simp [onlyText?, strip, none]
    · simp [onlyText?, strip, trim_trim]
  | text run rest ih =>
    rw [gist, ih]
    simp [onlyText?, Function.comp_def, String.ofList_append, String.append_assoc]
  | element head inner rest =>
    unfold gist afterText
    split <;> rfl

theorem onlyText?_gist (c : Content κ) : (c.gist []).onlyText?.map strip = c.onlyText?.map strip := by
  rw [onlyText?_gist_before]
  simp [onlyText?]

/-- Without adjacent texts the lines can be told from the gist. -/
theorem lines_gist (i : Indentation) (depth : Nat) {before : List Char} {c : Content κ} (uncut : c.IsUncut)
    (first : c.startsText → IsBlankText before) :
    (c.gist before).lines i depth = (text (String.ofList before) c).lines i depth := by
  induction c generalizing depth before with
  | nil => exact lines_afterText i depth before nil
  | text run rest ih =>
    have blank := first trivial
    have none : strip (String.ofList before) = "" := strip_eq_empty_iff.mpr (by simpa using blank)
    have alike : strip (String.ofList (before ++ run.toList)) = strip run := by
      rw [strip_eq_strip_iff, String.toList_ofList, trim_append_of_blank blank]
    rw [gist, ih depth uncut.2 fun starts => absurd starts uncut.1, lines_text i depth alike,
      lines_blank i depth none]
  | element head inner rest ih₁ ih₂ =>
    have inside := @ih₁ (depth + 1) [] uncut.1 fun _ => isBlankText_nil
    have behind := @ih₂ depth [] uncut.2 fun _ => isBlankText_nil
    rw [lines_start] at inside behind
    rw [gist, lines_afterText, lines, lines, lines, lines, inside, behind, Head.indented, Head.indented,
      onlyText?_gist]

end Content

theorem Content.IsUncut.lines_gist {c : Content κ} (uncut : c.IsUncut) (i : Indentation) (depth : Nat) :
    (c.gist []).lines i depth = c.lines i depth := by
  rw [Content.lines_gist i depth uncut fun _ => isBlankText_nil, Content.lines_start]

def Element.gist (e : Element κ) : Element κ := ⟨e.head, e.content.gist []⟩

theorem Element.indented_gist (i : Indentation) {e : Element κ} (uncut : e.content.IsUncut) :
    e.gist.indented i = e.indented i := by
  rw [indented, gist, uncut.lines_gist, Head.indented, Content.onlyText?_gist]
  rfl

/-! Simple trees are read as they are printed. -/

def isSimpleChar (c : Char) : Bool := c.isLower || c.isDigit || c == '-'

def isSimpleName (name : String) : Bool :=
  (name.toList.head?).any Char.isLower && name.toList.all isSimpleChar

structure Head.IsSimple (h : Head κ) : Prop where
  tag : isSimpleName h.tag = true
  names : ∀ entry ∈ h.attributes.entries, isSimpleName entry.1 = true

/-- Simple names only, no raw content, and none under the tags that have none. -/
def Content.IsSimple : Content κ → Prop
  | nil => True
  | text _ rest => rest.IsSimple
  | element head inner rest =>
    head.IsSimple ∧ isRaw head.tag = false ∧ (emptyTags.contains head.tag = true → inner = nil) ∧
      inner.IsSimple ∧ rest.IsSimple

structure Element.IsSimple (e : Element κ) : Prop where
  head : e.head.IsSimple
  raw : isRaw e.head.tag = false
  empty : emptyTags.contains e.head.tag = true → e.content = .nil
  content : e.content.IsSimple

theorem isSimpleChar_iff {c : Char} : isSimpleChar c = true ↔
    (0x61 ≤ c.toNat ∧ c.toNat ≤ 0x7A) ∨ (0x30 ≤ c.toNat ∧ c.toNat ≤ 0x39) ∨ c.toNat = 0x2D := by
  have small : c.isLower = (decide (0x61 ≤ c.val) && decide (c.val ≤ 0x7A)) := rfl
  have digit : c.isDigit = (decide (0x30 ≤ c.val) && decide (c.val ≤ 0x39)) := rfl
  have hyphen : c = '-' ↔ c.toNat = 0x2D := Char.toNat_inj.symm
  simp only [isSimpleChar, small, digit, Bool.or_eq_true, Bool.and_eq_true, decide_eq_true_eq,
    UInt32.le_iff_toNat_le, beq_iff_eq, hyphen, or_assoc]
  rfl

variable {c : Char} {name : String}

theorem isBlank_of_isSimpleChar (simple : isSimpleChar c = true) : isBlank c = false := by
  refine Bool.eq_false_iff.mpr fun blank => ?_
  rw [isSimpleChar_iff] at simple
  simp only [isBlank, Bool.or_eq_true, Bool.and_eq_true, decide_eq_true_eq, beq_iff_eq] at blank
  omega

theorem unmoved_of_isSimpleChar (simple : isSimpleChar c = true) : Unmoved c.toNat := by
  rw [isSimpleChar_iff] at simple
  refine ⟨by omega, fun r member covers => ?_⟩
  obtain rfl := lowerRanges_ascii r member (Nat.lt_of_le_of_lt covers.1 (by omega))
  have capital : 0x41 ≤ c.toNat ∧ c.toNat ≤ 0x5A := ⟨covers.1, covers.2.1⟩
  omega

theorem isAlpha_of_isLower (small : c.isLower = true) : c.isAlpha = true := by
  have either : c.isAlpha = (c.isUpper || c.isLower) := rfl
  rw [either, small, Bool.or_true]

/-- Simple characters end no name. -/
theorem inside_of_isSimpleChar (simple : isSimpleChar c = true) :
    Tag.isNameChar c = true ∧ Tag.isAttributeChar c = true ∧ Tag.isEndNameChar c = true := by
  refine ⟨?_, ?_, ?_⟩
  · refine Bool.not_eq_false _ ▸ fun ends => ?_
    simp only [Tag.isNameChar, Bool.not_eq_false', List.contains_iff_mem, List.mem_cons,
      List.not_mem_nil, or_false] at ends
    rcases ends with rfl | rfl | rfl | rfl | rfl | rfl | rfl | rfl <;> cases simple
  · have other : c ≠ '/' ∧ c ≠ '=' ∧ c ≠ '>' := by
      refine ⟨?_, ?_, ?_⟩ <;> rintro rfl <;> cases simple
    simp [Tag.isAttributeChar, isBlank_of_isSimpleChar simple, other]
  · simp only [isSimpleChar, Bool.or_eq_true] at simple
    rcases simple with (small | digit) | hyphen
    · simp [Tag.isEndNameChar, Char.isAlphanum, isAlpha_of_isLower small]
    · simp [Tag.isEndNameChar, Char.isAlphanum, digit]
    · simp [Tag.isEndNameChar, hyphen]

theorem chars_of_isSimpleName (simple : isSimpleName name = true) :
    ∃ c s, name.toList = c :: s ∧ c.isLower = true ∧ ∀ d ∈ c :: s, isSimpleChar d = true := by
  obtain ⟨letter, chars⟩ := Bool.and_eq_true_iff.mp simple
  rw [List.all_eq_true] at chars
  cases parts : name.toList with
  | nil => simp [parts] at letter
  | cons c s => exact ⟨c, s, rfl, by simpa [parts] using letter, parts ▸ chars⟩

theorem lower_of_isSimpleName (simple : isSimpleName name = true) : lower name = name := by
  obtain ⟨c, s, parts, -, chars⟩ := chars_of_isSimpleName simple
  rw [lower, lowerAfter_of_unmoved [] fun d member => unmoved_of_isSimpleChar (chars d (parts ▸ member)),
    String.ofList_toList]

theorem isTag_of_isSimpleName (simple : isSimpleName name = true) : IsTag name := by
  obtain ⟨c, s, parts, letter, chars⟩ := chars_of_isSimpleName simple
  refine ⟨lower_of_isSimpleName simple, ?_, fun d member => ?_⟩
  · simp [parts, isAlpha_of_isLower letter]
  · exact (inside_of_isSimpleChar (chars d (parts ▸ member))).1

theorem isAttributeName_of_isSimpleName (simple : isSimpleName name = true) : IsAttributeName name := by
  obtain ⟨c, s, parts, -, chars⟩ := chars_of_isSimpleName simple
  refine ⟨lower_of_isSimpleName simple, c, s, parts, ?_, fun d member => ?_⟩
  · have own := (inside_of_isSimpleChar (chars c List.mem_cons_self)).2.1
    simp only [Tag.isAttributeChar, Bool.and_eq_true, Bool.not_eq_true', bne_iff_ne] at own
    simp [own]
  · exact (inside_of_isSimpleChar (chars d (List.mem_cons_of_mem c member))).2.1

theorem Head.IsSimple.isScanned {h : Head κ} (simple : h.IsSimple) : h.IsScanned :=
  ⟨isTag_of_isSimpleName simple.tag, fun entry member =>
    isAttributeName_of_isSimpleName (simple.names entry member)⟩

theorem Head.IsSimple.isFaithful {h : Head κ} (simple : h.IsSimple) : h.IsFaithful := by
  constructor
  · refine List.Pairwise.isChain (List.pairwise_of_forall_mem_list fun a _ b member _ sign => ?_)
    obtain ⟨c, s, parts, letter, -⟩ := chars_of_isSimpleName (simple.names b member)
    rw [parts] at sign
    obtain rfl : c = '=' := Option.some.inj sign
    cases letter
  · intro _
    obtain ⟨c, s, parts, -, chars⟩ := chars_of_isSimpleName simple.tag
    rw [parts]
    exact List.dropWhile_eq_nil_iff.mpr fun d member => (inside_of_isSimpleChar (chars d member)).2.2

namespace Content.IsSimple

variable {c d : Content κ}

theorem isRead (simple : c.IsSimple) : c.IsRead := by
  induction c with
  | nil => trivial
  | text run rest ih => exact ih simple
  | element head inner rest ih₁ ih₂ =>
    obtain ⟨names, plain, -, inside, behind⟩ := simple
    exact ⟨names.isScanned, fun raw => absurd (plain ▸ raw) Bool.false_ne_true, ih₁ inside,
      ih₂ behind⟩

theorem isFaithful (simple : c.IsSimple) : c.IsFaithful := by
  induction c with
  | nil => trivial
  | text run rest ih => exact ih simple
  | element head inner rest ih₁ ih₂ =>
    obtain ⟨names, plain, empty, inside, behind⟩ := simple
    exact ⟨names.isFaithful, empty, fun raw => absurd (plain ▸ raw) Bool.false_ne_true, ih₁ inside,
      ih₂ behind⟩

theorem relaid (simple : c.IsSimple) (relaid : c.Relaid d) : d.IsSimple := by
  induction relaid with
  | nil => trivial
  | text _ _ ih => exact ih simple
  | element bare _ _ ih₁ ih₂ =>
    obtain ⟨names, plain, empty, inside, behind⟩ := simple
    exact ⟨names, plain, fun own => bare (empty own), ih₁ inside, ih₂ behind⟩
  | blank _ _ ih => exact ih simple

theorem afterText (write : List Char → List Char) (before : List Char) (simple : c.IsSimple) :
    (c.afterText write before).IsSimple := by
  unfold Content.afterText
  split
  · exact simple
  · exact simple

theorem reread (kept : Bool) (before : List Char) (simple : c.IsSimple) : (c.reread kept before).IsSimple := by
  induction c generalizing kept before with
  | nil => exact afterText _ before trivial
  | text run rest ih => exact ih kept _ simple
  | element head inner rest ih₁ ih₂ =>
    obtain ⟨names, plain, empty, inside, behind⟩ := simple
    refine afterText _ before ⟨names, plain, fun own => ?_, ih₁ _ [] inside, ih₂ kept [] behind⟩
    obtain rfl := empty own
    rfl

end Content.IsSimple

namespace Element.IsSimple

variable {e e' : Element κ}

theorem isRead (simple : e.IsSimple) : e.IsRead :=
  ⟨simple.head.isScanned, fun raw => absurd (simple.raw ▸ raw) Bool.false_ne_true, simple.content.isRead⟩

theorem isFaithful (simple : e.IsSimple) : e.IsFaithful :=
  ⟨simple.head.isFaithful, simple.empty, fun raw => absurd (simple.raw ▸ raw) Bool.false_ne_true,
    simple.content.isFaithful⟩

theorem relaid (simple : e.IsSimple) (relaid : e.Relaid e') : e'.IsSimple := by
  obtain ⟨head, raw, empty, content⟩ := simple
  refine ⟨?_, ?_, fun own => relaid.bare (empty ?_), content.relaid relaid.content⟩
  · rwa [relaid.head]
  · rwa [relaid.head]
  · rwa [relaid.head] at own

theorem reread (simple : e.IsSimple) : e.reread.IsSimple := by
  refine ⟨simple.head, simple.raw, fun own => ?_, simple.content.reread _ []⟩
  rw [Element.reread, simple.empty own]
  rfl

end Element.IsSimple

/-! Which objects the elements are does not matter to their lines. -/

namespace Content

theorem onlyText?_mapNumbered (f : Nat → Head κ → Head μ) (n : Nat) (c : Content κ) :
    (c.mapNumbered f n).onlyText? = c.onlyText? := by
  induction c generalizing n with
  | nil => rfl
  | text run rest ih => simp [mapNumbered, onlyText?, ih]
  | element head inner rest => rfl

theorem lines_numbered (i : Indentation) (depth n : Nat) (c : Content κ) :
    (c.mapNumbered (fun k h => h.withKey k) n).lines i depth = c.lines i depth := by
  induction c generalizing n depth with
  | nil => rfl
  | text run rest ih => simp [mapNumbered, lines, ih]
  | element head inner rest ih₁ ih₂ =>
    simp only [mapNumbered, lines, ih₁, ih₂, onlyText?_mapNumbered]
    rfl

end Content

theorem Element.indented_numbered (i : Indentation) (e : Element κ) :
    e.numbered.indented i = e.indented i := by
  simp only [numbered, mapNumbered, indented, Content.lines_numbered, Content.onlyText?_mapNumbered]
  rfl

theorem Element.indented_unkeyed (i : Indentation) (e : Element κ) :
    e.unkeyed.indented i = e.indented i := by
  have same : e.unkeyed.numbered = e.numbered := mapNumbered_mapHeads _ _ e
  rw [← indented_numbered, same, indented_numbered]

theorem Content.IsUncut.unkeyed {c : Content κ} (uncut : c.IsUncut) : c.unkeyed.IsUncut := by
  induction c with
  | nil => trivial
  | text run rest ih =>
    refine ⟨fun starts => uncut.1 ?_, ih uncut.2⟩
    cases rest with
    | nil => cases starts
    | text run rest => trivial
    | element head inner rest => cases starts
  | element head inner rest ih₁ ih₂ => exact ⟨ih₁ uncut.1, ih₂ uncut.2⟩

theorem Content.IsSimple.unkeyed {c : Content κ} (simple : c.IsSimple) : c.unkeyed.IsSimple := by
  induction c with
  | nil => trivial
  | text run rest ih => exact ih simple
  | element head inner rest ih₁ ih₂ =>
    obtain ⟨names, plain, empty, inside, behind⟩ := simple
    refine ⟨⟨names.tag, names.names⟩, plain, fun own => ?_, ih₁ inside, ih₂ behind⟩
    obtain rfl := empty own
    rfl

theorem Element.IsSimple.unkeyed {e : Element κ} (simple : e.IsSimple) : e.unkeyed.IsSimple := by
  obtain ⟨names, plain, empty, content⟩ := simple
  refine ⟨⟨names.tag, names.names⟩, plain, fun own => ?_, content.unkeyed⟩
  rw [Element.unkeyed, mapHeads, empty own]
  rfl

theorem Content.unkeyed_numbered (n : Nat) (c : Content Unit) :
    (c.mapNumbered (fun k h => h.withKey k) n).unkeyed = c := by
  induction c generalizing n with
  | nil => rfl
  | text run rest ih => exact congrArg (text run) (ih n)
  | element head inner rest ih₁ ih₂ => exact congrArg₂ (element head) (ih₁ _) (ih₂ _)

theorem Element.unkeyed_numbered (e : Element Unit) : e.numbered.unkeyed = e := by
  rw [numbered, mapNumbered, unkeyed, mapHeads]
  exact congrArg (Element.mk e.head) (Content.unkeyed_numbered 1 e.content)

/-! Readers. -/

/-- The tree says what the other one says, with no names but simple ones and no adjacent texts. -/
structure Element.Restores (e' e : Element Unit) : Prop where
  simple : e'.IsSimple
  uncut : e'.content.IsUncut
  gist : e'.gist = e.gist

theorem Element.Restores.indented_eq {e' e : Element Unit} (restored : e'.Restores e)
    (uncut : e.content.IsUncut) (i : Indentation) : e'.indented i = e.indented i := by
  rw [← Element.indented_gist i restored.uncut, restored.gist, Element.indented_gist i uncut]

/-- The markup of simple trees is read as these trees, up to the blanks around their texts. -/
def Reader.Restores (read : Reader) : Prop :=
  ∀ e : Element Unit, e.IsSimple → ∃ e', read e.print = .ok e' ∧ e'.unkeyed.Restores e

theorem Element.restores_read : Reader.Restores Element.read := by
  intro e simple
  refine ⟨e.reread.numbered, read_print_eq simple.isRead simple.isFaithful, ?_⟩
  rw [unkeyed_numbered]
  refine ⟨simple.reread, Content.isUncut_reread _ [] e.content, ?_⟩
  rw [gist, gist, reread, Content.gist_reread]

namespace Reader.Restores

variable {read : Reader} {e : Element Unit}

theorem indentBy_print (restores : read.Restores) (simple : e.IsSimple) (i : Indentation) :
    ∃ e' : Element Unit, e'.Restores e ∧ indentBy read i e.print = e'.indented i := by
  obtain ⟨e', found, restored⟩ := restores e simple
  refine ⟨e'.unkeyed, restored, ?_⟩
  rw [indentBy, found, Element.indented_unkeyed]

/-- The second time another layout of what was read is read, and that has the same gist. -/
theorem indentBy_indentBy_print (restores : read.Restores) (simple : e.IsSimple) (i : Indentation) :
    indentBy read i (indentBy read i e.print) = indentBy read i e.print := by
  obtain ⟨e', restored, first⟩ := restores.indentBy_print simple i
  obtain ⟨laid, relaid, printed⟩ := e'.exists_relaid_indented i
  obtain ⟨e'', again, second⟩ := restores.indentBy_print (restored.simple.relaid relaid) i
  have same : laid.gist = e'.gist := by
    have content := relaid.content.gist_eq restored.uncut rfl fun _ => isBlankText_nil
    rw [Element.gist, Element.gist, relaid.head, content]
  have settled : e''.Restores e' := ⟨again.simple, again.uncut, again.gist.trans same⟩
  rw [first, printed, second, settled.indented_eq restored.uncut, printed]

end Reader.Restores

/-- Where a reader restores simple trees, as the one of tags as they stand does, the markup of a
simple tree is indented as the tree is, unless its texts are cut, and indenting it again changes
nothing. -/
theorem indent_settles (i : Indentation) {t : Element κ} (simple : t.IsSimple) :
    Reader.Restores Element.read ∧ ∀ read : Reader, read.Restores →
      (t.content.IsUncut → indentBy read i t.print = t.indented i) ∧
        indentBy read i (indentBy read i t.print) = indentBy read i t.print := by
  refine ⟨Element.restores_read, fun read restores => ?_⟩
  rw [← t.print_unkeyed]
  constructor
  · intro uncut
    obtain ⟨e', restored, indented⟩ := restores.indentBy_print simple.unkeyed i
    rw [indented, restored.indented_eq uncut.unkeyed, Element.indented_unkeyed]
  · exact restores.indentBy_indentBy_print simple.unkeyed i

/-- A box with text of its own, a paragraph and a line break. -/
def mixedBox : Element Unit :=
  ⟨⟨(), "div", .ofList [("data-x1", "a<b")]⟩,
    .text "\nlead " (.element ⟨(), "p", .empty⟩ (.text "more words" .nil)
      (.element ⟨(), "br", .empty⟩ .nil .nil))⟩

theorem indent_settles_mixedBox :
    mixedBox.IsSimple ∧ mixedBox.content.IsUncut ∧
      indent ⟨2, 5⟩ mixedBox.print =
        "<div data-x1=\x22a<b\x22>\n  lead\n  <p>\n    more words\n  </p>\n  <br>\n</div>" ∧
      indent ⟨2, 5⟩ (indent ⟨2, 5⟩ mixedBox.print) = indent ⟨2, 5⟩ mixedBox.print := by
  have simple : mixedBox.IsSimple := by
    refine ⟨⟨rfl, by decide⟩, rfl, nofun, ⟨rfl, nofun⟩, rfl, nofun, trivial, ⟨rfl, nofun⟩, rfl, ?_⟩
    exact ⟨fun _ => rfl, trivial, trivial⟩
  have uncut : mixedBox.content.IsUncut :=
    ⟨fun starts => starts, ⟨fun starts => starts, trivial⟩, trivial, trivial⟩
  obtain ⟨restores, settles⟩ := indent_settles ⟨2, 5⟩ simple
  obtain ⟨laid, settled⟩ := settles Element.read restores
  exact ⟨simple, uncut, (laid uncut).trans (by decide), settled⟩

end Clipping.Markup

import Clipping.Proofs.Markup.Rescanned

/-! Building a tree of the tokens of another one. An element is added whole when it ends, and
what stands around it does not matter but for one thing: within elements that keep space, space
is not settled. -/
namespace Clipping.Markup

open Token Fragment

variable {κ : Type}

namespace Content

/-- The text that is written for a run before other content, unless the run is empty. -/
def afterText (write : List Char → List Char) (run : List Char) (c : Content κ) : Content κ :=
  if run.isEmpty then c else text (String.ofList (write run)) c

def writing (kept : Bool) : List Char → List Char := if kept then id else Partial.settled

/-- The content as it is read behind a run of text. Adjacent texts become one, and space is
settled unless an element around keeps it. -/
def reread (kept : Bool) (before : List Char) : Content κ → Content κ
  | nil => afterText (writing kept) before nil
  | text run rest => rest.reread kept (before ++ run.toList)
  | element head inner rest =>
    afterText (writing kept) before
      (element head (inner.reread (preservingTags.contains head.tag || kept) []) (rest.reread kept []))

end Content

namespace Fragment.Partial

def extend (p : Partial) (c : Content Unit) : Partial := c.nodes.foldl add p

def keeps (p : Partial) : Bool := p.stack.any fun f => preservingTags.contains f.tag

def awaiting (p : Partial) (ended : List String) : Partial := { p with ended := ended }

def silent (p : Partial) : Partial := { p with run := [] }

theorem silent_of_run {p : Partial} (h : p.run = []) : p.silent = p := by
  rw [silent, ← h]

theorem add_awaiting (p : Partial) (n : Node Unit) (ended : List String) :
    (p.awaiting ended).add n = (p.add n).awaiting ended := by
  obtain ⟨root, stack, run, _⟩ := p
  cases stack <;> cases n <;> rfl

@[simp] theorem awaiting_run (p : Partial) (ended : List String) : (p.awaiting ended).run = p.run := rfl

@[simp] theorem keeps_awaiting (p : Partial) (ended : List String) :
    (p.awaiting ended).keeps = p.keeps := rfl

theorem extend_awaiting (p : Partial) (c : Content Unit) (ended : List String) :
    (p.awaiting ended).extend c = (p.extend c).awaiting ended := by
  unfold extend
  induction c.nodes generalizing p with
  | nil => rfl
  | cons n rest ih => rw [List.foldl_cons, List.foldl_cons, add_awaiting, ih]

theorem close_awaiting (n : Nat) (p : Partial) (ended : List String) :
    (p.awaiting ended).close n = (p.close n).awaiting ended := by
  induction n generalizing p with
  | zero => rfl
  | succ n ih =>
    obtain ⟨root, stack, run, old⟩ := p
    cases stack with
    | nil => rfl
    | cons f stack =>
      show close n ((awaiting ⟨root, stack, run, old⟩ ended).add _) = _
      rw [add_awaiting, ih]
      rfl

@[simp] theorem add_run (p : Partial) (n : Node Unit) : (p.add n).run = p.run := by
  obtain ⟨root, stack, run, _⟩ := p
  cases stack <;> cases n <;> rfl

@[simp] theorem keeps_add (p : Partial) (n : Node Unit) : (p.add n).keeps = p.keeps := by
  obtain ⟨root, stack, run, _⟩ := p
  cases stack <;> cases n <;> rfl

@[simp] theorem flush_ended (p : Partial) : p.flush.ended = p.ended := by
  unfold flush
  split
  · rfl
  · obtain ⟨root, stack, run, _⟩ := p
    cases stack <;> rfl

@[simp] theorem flush_run (p : Partial) : p.flush.run = [] := by
  unfold flush
  split
  next empty => simpa using empty
  next => simp

@[simp] theorem keeps_flush (p : Partial) : p.flush.keeps = p.keeps := by
  unfold flush
  split
  · rfl
  · exact keeps_add _ _

@[simp] theorem keeps_opened (p : Partial) (tag : String) (attributes : Attributes) :
    (p.opened tag attributes).keeps = (preservingTags.contains tag || p.keeps) := rfl

/-- The run since the last tag is the text before what is added next. -/
theorem extend_afterText (p : Partial) (c : Content Unit) :
    p.silent.extend (c.afterText (Content.writing p.keeps) p.run) = p.flush.extend c := by
  unfold Content.afterText flush
  split
  next empty =>
    rw [silent_of_run (by simpa using empty)]
  next =>
    unfold Content.writing keeps
    cases p.stack.any fun f => preservingTags.contains f.tag <;> rfl

/-- In an open element the content goes behind its children. -/
theorem extend_stack {p : Partial} {f : Frame} {rest : List Frame} (stack : p.stack = f :: rest)
    (c : Content Unit) :
    p.extend c = { p with stack := { f with children := c.nodes.reverse ++ f.children } :: rest } := by
  unfold extend
  induction c.nodes generalizing p f with
  | nil => rw [List.foldl_nil, List.reverse_nil, List.nil_append, ← stack]
  | cons n nodes ih =>
    have added : p.add n = { p with stack := { f with children := n :: f.children } :: rest } := by
      unfold add
      rw [stack]
    rw [List.foldl_cons, added, ih rfl]
    simp

theorem closeTag_opened (p : Partial) (tag : String) (attributes : Attributes) (c : Content Unit)
    (ended : List String) :
    (((p.opened tag attributes).extend c).awaiting ended).closeTag tag =
      (p.add (.element (.new () tag attributes c))).awaiting ended := by
  have stack := @extend_stack (p.opened tag attributes) _ p.stack rfl c
  have innermost := @closeTag_innermost (((p.opened tag attributes).extend c).awaiting ended)
    ⟨tag, attributes, c.nodes.reverse ++ []⟩ p.stack (by rw [stack]; rfl)
  rw [innermost, close_awaiting, stack]
  simp [close, Frame.element, opened]

/-- The tokens of a content build what it is reread as. -/
def Rebuilds (c : Content Unit) : Prop :=
  ∀ p : Partial, AwaitsEmpty p.ended → ∃ ended, AwaitsEmpty ended ∧
    (c.tokens.foldl step p).flush = (p.silent.extend (c.reread p.keeps p.run)).awaiting ended

theorem step_start_empty {p : Partial} {tag : String} (empty : emptyTags.contains tag = true)
    (attributes : Attributes) :
    p.step (.start tag attributes false) =
      (p.flush.add (.element (.new () tag attributes .nil))).awaiting (tag :: p.ended) := by
  simp only [step, empty]
  rfl

theorem finish_awaited (p : Partial) (tag : String) (ended : List String) :
    (p.awaiting (tag :: ended)).finish tag = p.awaiting ended := by
  simp [finish, awaiting]

/-- An empty element is added where it starts. Unless it is printed without end tag, its end
tag is awaited next. -/
theorem foldl_empty {head : Head Unit} (name : IsTag head.tag)
    (empty : emptyTags.contains head.tag = true) {p : Partial} (awaits : AwaitsEmpty p.ended) :
    ∃ ended, AwaitsEmpty ended ∧ (Content.element head .nil .nil).tokens.foldl step p =
      (p.flush.add (.element ⟨head, .nil⟩)).awaiting ended := by
  have started := @step_start_empty p head.tag empty head.attributes
  rw [Element.new_eq name] at started
  cases void : isVoid head.tag with
  | true =>
    refine ⟨head.tag :: p.ended, List.forall_mem_cons.mpr ⟨empty, awaits⟩, ?_⟩
    simp only [Content.tokens, void, if_true, List.nil_append, List.foldl_cons]
    exact started
  | false =>
    refine ⟨p.ended, awaits, ?_⟩
    simp only [Content.tokens, void, List.nil_append, List.foldl_cons, started]
    exact finish_awaited _ head.tag p.ended

/-- Any other element is opened, filled and closed by its own end tag. -/
theorem foldl_filled {head : Head Unit} {inner : Content Unit} (name : IsTag head.tag)
    (other : emptyTags.contains head.tag = false) (rebuilds : Rebuilds inner)
    {p : Partial} (awaits : AwaitsEmpty p.ended) :
    ∃ ended, AwaitsEmpty ended ∧ (Content.element head inner .nil).tokens.foldl step p =
      (p.flush.add (.element
        ⟨head, inner.reread (preservingTags.contains head.tag || p.keeps) []⟩)).awaiting ended := by
  have void : isVoid head.tag = false := Bool.eq_false_iff.mpr fun void => by
    rw [emptyTags_of_isVoid void] at other
    cases other
  have parts : (Content.element head inner .nil).tokens.foldl step p =
      (inner.tokens.foldl step (p.step (.start head.tag head.attributes false))).finish head.tag := by
    simp [Content.tokens, void, step]
  obtain ⟨ended, later, built⟩ :=
    rebuilds (p.flush.opened head.tag head.attributes) ((flush_ended p).symm ▸ awaits)
  rw [parts, step_start other]
  generalize inner.tokens.foldl step _ = q at built ⊢
  have pending : q.ended.contains head.tag = false :=
    not_ended (by rw [← flush_ended, built]; exact later) other
  have quiet : (p.flush.opened head.tag head.attributes).run = [] := flush_run p
  rw [silent_of_run quiet, quiet, keeps_opened, keeps_flush] at built
  refine ⟨ended, later, ?_⟩
  rw [finish, pending, if_neg Bool.false_ne_true, built, closeTag_opened, Element.new_eq name]

theorem foldl_element {head : Head Unit} {inner : Content Unit} (name : IsTag head.tag)
    (empty : emptyTags.contains head.tag = true → inner = .nil) (rebuilds : Rebuilds inner)
    {p : Partial} (awaits : AwaitsEmpty p.ended) :
    ∃ ended, AwaitsEmpty ended ∧ (Content.element head inner .nil).tokens.foldl step p =
      (p.flush.add (.element
        ⟨head, inner.reread (preservingTags.contains head.tag || p.keeps) []⟩)).awaiting ended := by
  cases emptyTag : emptyTags.contains head.tag with
  | true =>
    obtain rfl := empty emptyTag
    exact foldl_empty name emptyTag awaits
  | false => exact foldl_filled name emptyTag rebuilds awaits

theorem rebuilds {c : Content Unit} (read : c.IsRead) (faithful : c.IsFaithful) : Rebuilds c := by
  induction c with
  | nil =>
    intro p awaits
    refine ⟨p.ended, awaits, ?_⟩
    rw [Content.reread, extend_afterText, ← flush_ended]
    rfl
  | text run rest ih =>
    intro p awaits
    exact ih read faithful { p with run := p.run ++ run.toList } awaits
  | element head inner rest ih₁ ih₂ =>
    intro p awaits
    obtain ⟨scanned, -, readInner, readRest⟩ := read
    obtain ⟨-, empty, -, faithfulInner, faithfulRest⟩ := faithful
    obtain ⟨ended, own, element⟩ :=
      foldl_element scanned.tag empty (ih₁ readInner faithfulInner) awaits
    obtain ⟨ended', later, built⟩ := ih₂ readRest faithfulRest (Partial.awaiting _ ended) own
    refine ⟨ended', later, ?_⟩
    rw [Content.tokens_element, List.foldl_append, element, built, silent_of_run (by simp),
      Content.reread, extend_afterText, extend_awaiting]
    simp only [awaiting_run, add_run, flush_run, keeps_awaiting, keeps_add, keeps_flush]
    rfl

end Fragment.Partial

def Element.reread (e : Element κ) : Element κ :=
  ⟨e.head, e.content.reread (preservingTags.contains e.head.tag) []⟩

theorem Element.read_of_scans {m : String} {tokens : List Token} {e : Element Unit}
    (scans : Scans none m.toList tokens none []) (built : ofTokens tokens = some e) :
    Element.read m = .ok e.numbered := by
  obtain ⟨found, scanned, alike⟩ := scans.scan_eq_ok
  have same : ofTokens found = some e := by rw [← built, ofTokens, ofTokens, alike]
  simp only [read, scanned, same]

theorem Element.ofTokens_tokens {e : Element Unit} (read : e.IsRead) (faithful : e.IsFaithful) :
    ofTokens (Content.element e.head e.content .nil).tokens = some e.reread := by
  obtain ⟨ended, -, built⟩ := @Partial.foldl_element e.head e.content read.head.tag faithful.empty
    (Partial.rebuilds read.content faithful.content) .start nofun
  have plain : Partial.start.keeps = false := rfl
  rw [ofTokens, built, plain, Bool.or_false]
  rfl

theorem Element.read_print_eq {e : Element Unit} (read : e.IsRead) (faithful : e.IsFaithful) :
    Element.read e.print = .ok e.reread.numbered :=
  read_of_scans (scans_print read faithful) (ofTokens_tokens read faithful)

end Clipping.Markup

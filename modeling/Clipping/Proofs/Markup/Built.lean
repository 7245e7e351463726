import Clipping.Markup.Fragment
import Clipping.Markup.Printer
import Clipping.Proofs.Markup.Scanned

/-! Trees that are read. While a tree is built of scanned tokens, at most the innermost open
element has raw content, and it has nothing but text. -/
namespace Clipping.Markup

open Token

variable {κ : Type}

def isRaw (tag : String) : Bool := Step.rawTags.contains tag

/-- Names as a scan reads them, and only text in raw content. -/
def Content.IsRead : Content κ → Prop
  | nil => True
  | text _ rest => rest.IsRead
  | element head inner rest =>
    head.IsScanned ∧ (isRaw head.tag = true → inner.heads = []) ∧ inner.IsRead ∧ rest.IsRead

structure Element.IsRead (e : Element κ) : Prop where
  head : e.head.IsScanned
  raw : isRaw e.head.tag = true → e.content.heads = []
  content : e.content.IsRead

def Node.IsRead : Node κ → Prop
  | .text _ => True
  | .element e => e.IsRead

def Node.isText : Node κ → Bool
  | .text _ => true
  | .element _ => false

theorem Content.isRead_ofNodes {children : List (Node κ)} (read : ∀ n ∈ children, n.IsRead) :
    (ofNodes children).IsRead := by
  induction children with
  | nil => trivial
  | cons child rest ih =>
    obtain ⟨first, others⟩ := List.forall_mem_cons.mp read
    cases child with
    | text run => exact ih others
    | element e => exact ⟨first.head, first.raw, first.content, ih others⟩

theorem Content.heads_ofNodes {children : List (Node κ)} (texts : ∀ n ∈ children, n.isText = true) :
    (ofNodes children).heads = [] := by
  induction children with
  | nil => rfl
  | cons child rest ih =>
    obtain ⟨first, others⟩ := List.forall_mem_cons.mp texts
    cases child with
    | text run => exact ih others
    | element e => simp [Node.isText] at first

theorem Element.new_eq {head : Head κ} (name : IsTag head.tag) (c : Content κ) :
    new head.key head.tag head.attributes c = ⟨head, c⟩ := by
  rw [new, Head.new, name.lowered]

namespace Fragment

theorem not_isRaw_of_emptyTags {tag : String} (empty : emptyTags.contains tag = true) :
    isRaw tag = false :=
  (by decide : ∀ tag ∈ emptyTags, isRaw tag = false) tag (List.contains_iff_mem.mp empty)

theorem not_emptyTags_of_isRaw {tag : String} (raw : isRaw tag = true) :
    emptyTags.contains tag = false :=
  Bool.eq_false_iff.mpr fun empty => by simp [not_isRaw_of_emptyTags empty] at raw

theorem emptyTags_of_isVoid {tag : String} (void : isVoid tag = true) :
    emptyTags.contains tag = true :=
  (by decide : ∀ tag ∈ voidTags, emptyTags.contains tag = true) tag (List.contains_iff_mem.mp void)

structure Frame.IsRead (f : Frame) : Prop where
  head : (Head.mk () f.tag f.attributes).IsScanned
  raw : isRaw f.tag = true → ∀ n ∈ f.children, n.isText = true
  children : ∀ n ∈ f.children, n.IsRead

theorem Frame.IsRead.element {f : Frame} (read : f.IsRead) : f.element.IsRead := by
  have tag : f.element.head = ⟨(), f.tag, f.attributes⟩ :=
    congrArg Element.head (Element.new_eq read.head.tag _)
  refine ⟨tag ▸ read.head, fun raw => ?_, ?_⟩
  · rw [tag] at raw
    exact Content.heads_ofNodes (by simpa using read.raw raw)
  · exact Content.isRead_ofNodes (by simpa using read.children)

theorem Frame.IsRead.cons {f : Frame} (read : f.IsRead) {n : Node Unit} (node : n.IsRead)
    (fits : isRaw f.tag = true → n.isText = true) :
    Frame.IsRead { f with children := n :: f.children } where
  head := read.head
  raw raw := List.forall_mem_cons.mpr ⟨fits raw, read.raw raw⟩
  children := List.forall_mem_cons.mpr ⟨node, read.children⟩

/-- The innermost open element is the one whose raw content is scanned, and no other is raw. -/
def Innermost : Option String → List Frame → Prop
  | none, stack => ∀ f ∈ stack, isRaw f.tag = false
  | some name, stack =>
    isRaw name = true ∧ ∃ f rest, stack = f :: rest ∧ f.tag = name ∧ ∀ g ∈ rest, isRaw g.tag = false

/-- End tags are left over from empty elements only. -/
def AwaitsEmpty (ended : List String) : Prop := ∀ tag ∈ ended, emptyTags.contains tag = true

namespace Partial

structure IsRead (raw : Option String) (p : Partial) : Prop where
  frames : ∀ f ∈ p.stack, f.IsRead
  innermost : Innermost raw p.stack
  ended : AwaitsEmpty p.ended
  root : ∀ e, p.root = some e → e.IsRead

theorem isRead_start : start.IsRead none := ⟨nofun, nofun, nofun, nofun⟩

variable {p : Partial} {raw : Option String}

theorem IsRead.add_text (read : p.IsRead raw) (run : String) : (p.add (.text run)).IsRead raw := by
  obtain ⟨root, stack, pending, ended⟩ := p
  cases stack with
  | nil => exact read
  | cons f stack =>
    obtain ⟨top, below⟩ := List.forall_mem_cons.mp read.frames
    refine ⟨List.forall_mem_cons.mpr ⟨top.cons trivial fun _ => rfl, below⟩, ?_, read.ended, read.root⟩
    cases raw with
    | none => exact List.forall_mem_cons.mpr (List.forall_mem_cons.mp read.innermost)
    | some name =>
      obtain ⟨named, g, rest, same, tag, others⟩ := read.innermost
      obtain ⟨rfl, rfl⟩ := List.cons.inj same
      exact ⟨named, _, stack, rfl, tag, others⟩

theorem IsRead.flush (read : p.IsRead raw) : p.flush.IsRead raw := by
  unfold Partial.flush
  split
  · exact read
  · exact @IsRead.add_text { p with run := [] } raw
      ⟨read.frames, read.innermost, read.ended, read.root⟩ _

/-- An element is added only outside of raw content. -/
theorem IsRead.add_element (read : p.IsRead none) {e : Element Unit} (element : e.IsRead) :
    (p.add (.element e)).IsRead none := by
  obtain ⟨root, stack, pending, ended⟩ := p
  cases stack with
  | nil =>
    refine ⟨read.frames, read.innermost, read.ended, fun other found => ?_⟩
    cases root with
    | none => exact Option.some.inj found ▸ element
    | some first => exact read.root other found
  | cons f stack =>
    obtain ⟨top, below⟩ := List.forall_mem_cons.mp read.frames
    obtain ⟨plain, others⟩ := List.forall_mem_cons.mp read.innermost
    exact ⟨List.forall_mem_cons.mpr ⟨top.cons element fun raw => by simp [plain] at raw, below⟩,
      List.forall_mem_cons.mpr ⟨plain, others⟩, read.ended, read.root⟩

/-- With the innermost element its raw content ends too. -/
theorem IsRead.pop (read : p.IsRead raw) {f : Frame} {rest : List Frame} (opened : p.stack = f :: rest) :
    ({ p with stack := rest }.add (.element f.element)).IsRead none := by
  obtain ⟨top, below⟩ := List.forall_mem_cons.mp (opened ▸ read.frames)
  refine @IsRead.add_element { p with stack := rest } ⟨below, ?_, read.ended, read.root⟩ _ top.element
  have innermost := read.innermost
  rw [opened] at innermost
  cases raw with
  | none => exact (List.forall_mem_cons.mp innermost).2
  | some name =>
    obtain ⟨-, g, others, same, -, plain⟩ := innermost
    exact (List.cons.inj same).2 ▸ plain

theorem IsRead.close (read : p.IsRead none) (n : Nat) : (p.close n).IsRead none := by
  induction n generalizing p with
  | zero => exact read
  | succ n ih =>
    unfold Partial.close
    split
    · exact read
    next opened => exact ih (read.pop opened)

theorem IsRead.close_raw {name : String} (read : p.IsRead (some name)) (n : Nat) :
    (p.close (n + 1)).IsRead none := by
  obtain ⟨-, f, rest, opened, -, -⟩ := read.innermost
  have popped := read.pop opened
  unfold Partial.close
  rw [opened]
  exact popped.close n

theorem IsRead.finish (read : p.IsRead none) (tag : String) : (p.finish tag).IsRead none := by
  unfold Partial.finish
  split
  · exact ⟨read.frames, read.innermost, fun other member => read.ended other (List.mem_of_mem_erase member),
      read.root⟩
  · unfold closeTag
    split
    · exact read.flush.close _
    · exact read.flush

theorem not_ended (ended : AwaitsEmpty p.ended) {tag : String}
    (other : emptyTags.contains tag = false) : p.ended.contains tag = false := by
  refine Bool.eq_false_iff.mpr fun member => ?_
  rw [ended tag (List.contains_iff_mem.mp member)] at other
  cases other

theorem closeTag_innermost {f : Frame} {rest : List Frame} (opened : p.stack = f :: rest) :
    p.closeTag f.tag = p.close 1 := by
  simp [closeTag, opened, List.findIdx?_cons]

theorem IsRead.finish_raw {name : String} (read : p.IsRead (some name)) :
    (p.finish name).IsRead none := by
  have plain := not_emptyTags_of_isRaw read.innermost.1
  obtain ⟨-, f, rest, opened, rfl, -⟩ := read.flush.innermost
  rw [Partial.finish, not_ended read.ended plain, if_neg Bool.false_ne_true, closeTag_innermost opened]
  exact read.flush.close_raw 0

def opened (p : Partial) (tag : String) (attributes : Attributes) : Partial :=
  { p with stack := ⟨tag, attributes, []⟩ :: p.stack }

theorem step_start {tag : String} (other : emptyTags.contains tag = false) (attributes : Attributes) :
    p.step (.start tag attributes false) = p.flush.opened tag attributes := by
  simp only [Partial.step, other]
  rfl

/-- A start tag opens an element, and its raw content if it has one. -/
theorem IsRead.opened (read : p.IsRead none) {tag : String} {attributes : Attributes}
    (head : (Head.mk () tag attributes).IsScanned) :
    (p.opened tag attributes).IsRead (if isRaw tag then some tag else none) where
  frames := List.forall_mem_cons.mpr ⟨⟨head, nofun, nofun⟩, read.frames⟩
  innermost := by
    cases raw : isRaw tag with
    | true => exact ⟨raw, _, p.stack, rfl, rfl, read.innermost⟩
    | false => exact List.forall_mem_cons.mpr ⟨raw, read.innermost⟩
  ended := read.ended
  root := read.root

/-- Whatever token can follow, the partial tree stays one that is read, in the mode in which
the next token follows. -/
theorem IsRead.step (read : p.IsRead raw) {token : Token} {rest : List Token}
    (follow : Follow raw (token :: rest)) :
    ∃ mode, (p.step token).IsRead mode ∧ Follow mode rest := by
  cases follow with
  | text later => exact ⟨raw, ⟨read.frames, read.innermost, read.ended, read.root⟩, later⟩
  | boundary later => exact ⟨none, read.flush, later⟩
  | finish later => exact ⟨none, read.finish _, later⟩
  | finishRaw later => exact ⟨none, read.finish_raw, later⟩
  | @start tag attributes closed _ head later =>
    have opened := read.flush.opened head
    have mode : Step.rawTags.contains tag = isRaw tag := rfl
    rw [mode] at later
    cases raw : isRaw tag with
    | true =>
      -- A raw element that ends where it starts has no raw content.
      rw [raw] at opened later
      cases closed with
      | true => exact ⟨none, opened.finish_raw, later⟩
      | false =>
        exact ⟨some tag, step_start (not_emptyTags_of_isRaw raw) attributes ▸ opened, later⟩
    | false =>
      rw [raw, if_neg Bool.false_ne_true] at opened
      rw [raw, Bool.and_false, if_neg Bool.false_ne_true] at later
      refine ⟨none, ?_, later⟩
      unfold Partial.step
      dsimp only
      split
      · exact opened.finish tag
      · split
        next empty =>
          have ended := opened.close 1
          refine ⟨ended.frames, ended.innermost, ?_, ended.root⟩
          exact List.forall_mem_cons.mpr ⟨empty, read.ended⟩
        next => exact opened

theorem IsRead.foldl {tokens : List Token} (read : p.IsRead raw) (follow : Follow raw tokens) :
    ∃ mode, (tokens.foldl Partial.step p).IsRead mode := by
  induction tokens generalizing p raw with
  | nil => exact ⟨raw, read⟩
  | cons token rest ih =>
    obtain ⟨mode, next, later⟩ := read.step follow
    exact ih next later

theorem IsRead.complete (read : p.IsRead raw) {e : Element Unit} (found : p.complete = some e) :
    e.IsRead := by
  unfold Partial.complete at found
  dsimp only at found
  cases raw with
  | none => exact (read.flush.close _).root e found
  | some name =>
    obtain ⟨-, f, rest, opened, -⟩ := read.flush.innermost
    rw [opened] at found
    exact (read.flush.close_raw rest.length).root e found

end Partial

end Fragment

/-- Whatever the markup is, a tree that is read of it has the names that a scan reads, and
only text in its raw elements. -/
theorem Element.isRead_of_read {s : String} {t : Element Nat} (h : Element.read s = .ok t) :
    ∃ e : Element Unit, t = e.numbered ∧ e.IsRead := by
  unfold Element.read at h
  split at h
  · cases h
  next tokens scanned =>
    split at h
    next e built =>
      cases h
      obtain ⟨mode, whole⟩ := Fragment.Partial.isRead_start.foldl (follow_scanFrom scanned)
      exact ⟨e, rfl, whole.complete built⟩
    next => cases h

end Clipping.Markup

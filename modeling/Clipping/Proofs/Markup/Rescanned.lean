import Clipping.Proofs.Markup.Built
import Clipping.Proofs.Markup.Retagged

/-! Printed markup is scanned as the tokens of its tree, from left to right: what is behind a
tag does not matter to it, and a text ends at the next bracket. A scan cuts a text at its
references, so tokens count up to what is built of them. -/
namespace Clipping.Markup

open Text Token Fragment

variable {κ : Type}

def isUnescaped (c : Char) : Bool := escapeTextChar c == [c]

namespace Content

/-- The text directly in the content needs no escape. -/
def IsBare : Content κ → Prop
  | nil => True
  | text run rest => (∀ c ∈ run.toList, isUnescaped c = true) ∧ rest.IsBare
  | element _ _ rest => rest.IsBare

/-- Printed, the content can be read as it is: tags are read as they are
printed, elements without content have none, and raw content has no escape. -/
def IsFaithful : Content κ → Prop
  | nil => True
  | text _ rest => rest.IsFaithful
  | element head inner rest =>
    head.IsFaithful ∧ (emptyTags.contains head.tag = true → inner = nil) ∧
      (isRaw head.tag = true → inner.IsBare) ∧ inner.IsFaithful ∧ rest.IsFaithful

end Content

structure Element.IsFaithful (e : Element κ) : Prop where
  head : e.head.IsFaithful
  empty : emptyTags.contains e.head.tag = true → e.content = .nil
  raw : isRaw e.head.tag = true → e.content.IsBare
  content : e.content.IsFaithful

namespace Content

/-- What a scan of the printed content gives, with each text in one token. -/
def tokens : Content κ → List Token
  | nil => []
  | text run rest => .text run.toList :: rest.tokens
  | element head inner rest =>
    .start head.tag head.attributes false ::
      ((if isVoid head.tag then [] else inner.tokens ++ [.finish head.tag]) ++ rest.tokens)

def run : Content κ → List Char
  | nil => []
  | text s rest => s.toList ++ rest.run
  | element _ _ rest => rest.run

end Content

/-- Nothing else is built of the one tokens than of the others. -/
def BuildAlike (a b : List Token) : Prop :=
  ∀ p : Partial, a.foldl Partial.step p = b.foldl Partial.step p

namespace BuildAlike

theorem append {a a' b b' : List Token} (first : BuildAlike a a') (second : BuildAlike b b') :
    BuildAlike (a ++ b) (a' ++ b') := by
  intro p
  rw [List.foldl_append, List.foldl_append, first p, second]

theorem texts (s t : List Char) : BuildAlike [.text s, .text t] [.text (s ++ t)] := by
  intro p
  simp [Partial.step]

theorem symm {a b : List Token} (alike : BuildAlike a b) : BuildAlike b a := fun p => (alike p).symm

theorem refl (a : List Token) : BuildAlike a a := fun _ => rfl

theorem trans {a b c : List Token} (first : BuildAlike a b) (second : BuildAlike b c) :
    BuildAlike a c := fun p => (first p).trans (second p)

theorem noText : BuildAlike [] [.text []] := by
  intro p
  simp [Partial.step]

theorem textIfAny (s : List Char) : BuildAlike (Step.textIfAny s) [.text s] := by
  cases s with
  | nil => exact noText
  | cons c s => exact fun _ => rfl

end BuildAlike

/-- The scan goes from the first place to the second one, behind tokens that build alike. -/
def Scans (raw : Option String) (s : List Char) (tokens : List Token) (mode : Option String)
    (rest : List Char) : Prop :=
  ∃ found, BuildAlike found tokens ∧
    ∀ again, scanFrom again raw s = (scanFrom again mode rest).map (found ++ ·)

namespace Scans

variable {raw mode mode' : Option String} {s rest rest' : List Char} {a b : List Token}

theorem refl (raw : Option String) (s : List Char) : Scans raw s [] raw s := by
  refine ⟨[], fun _ => rfl, fun again => ?_⟩
  cases scanFrom again raw s <;> rfl

theorem trans (first : Scans raw s a mode rest) (second : Scans mode rest b mode' rest') :
    Scans raw s (a ++ b) mode' rest' := by
  obtain ⟨found, alike, scan⟩ := first
  obtain ⟨found', alike', scan'⟩ := second
  refine ⟨found ++ found', alike.append alike', fun again => ?_⟩
  rw [scan again, scan' again]
  cases scanFrom again mode' rest' <;> simp [Except.map]

theorem congr (scans : Scans raw s a mode rest) (alike : BuildAlike a b) :
    Scans raw s b mode rest := by
  obtain ⟨found, own, scan⟩ := scans
  exact ⟨found, fun p => (own p).trans (alike p), scan⟩

theorem of_next (step : ∀ again, Step.next again raw s = .advance a mode rest) :
    Scans raw s a mode rest := by
  refine ⟨a, fun _ => rfl, fun again => ?_⟩
  rw [scanFrom]
  split
  next other => rw [step] at other; cases other; rfl
  next other => rw [step] at other; cases other
  next other => rw [step] at other; cases other

theorem scanFrom_nil : scanFrom false none [] = .ok [] := by
  simp [scanFrom, Step.next, Step.textIfAny, Except.map]

theorem scan_eq_ok {m : String} (scans : Scans none m.toList a none []) :
    ∃ found, scan m = .ok found ∧ BuildAlike found a := by
  obtain ⟨found, alike, scanned⟩ := scans
  refine ⟨found, ?_, alike⟩
  rw [scan, scanned, scanFrom_nil]
  simp [Except.map]

end Scans

theorem scans_amp (r : List Char) :
    Scans none ('&' :: 'a' :: 'm' :: 'p' :: ';' :: r) [.text ['&']] none r :=
  .of_next fun _ => rfl

theorem scans_lt (r : List Char) :
    Scans none ('&' :: 'l' :: 't' :: ';' :: r) [.text ['<']] none r :=
  .of_next fun _ => rfl

theorem scans_gt (r : List Char) :
    Scans none ('&' :: 'g' :: 't' :: ';' :: r) [.text ['>']] none r :=
  .of_next fun _ => rfl

theorem flatMap_escapeTextChar_append {s : List Char} (plain : ∀ c ∈ s, isUnescaped c = true)
    (t : List Char) : (s ++ t).flatMap escapeTextChar = s ++ t.flatMap escapeTextChar := by
  induction s with
  | nil => rfl
  | cons c s ih =>
    obtain ⟨first, others⟩ := List.forall_mem_cons.mp plain
    rw [List.cons_append, List.flatMap_cons, beq_iff_eq.mp first, ih others]
    rfl

theorem isPlain_of_isUnescaped {c : Char} (plain : isUnescaped c = true) : Step.isPlain c = true := by
  rcases escapeTextChar_cases c with ⟨rfl, -⟩ | ⟨rfl, -⟩ | ⟨rfl, -⟩ | ⟨⟨amp, lt, -⟩, -⟩
  · cases plain
  · cases plain
  · cases plain
  · simp [Step.isPlain, amp, lt]

theorem ne_of_isUnescaped {c : Char} (plain : isUnescaped c = true) : c ≠ '<' := by
  have other := isPlain_of_isUnescaped plain
  rintro rfl
  cases other

/-- What stands behind the plain start of a text is a reference or the next bracket. -/
theorem head_behind_plain (s r : List Char) :
    ∀ c ∈ ((s.dropWhile isUnescaped).flatMap escapeTextChar ++ '<' :: r).head?,
      Step.isPlain c = false := by
  have first := List.head?_dropWhile_not isUnescaped s
  cases behind : s.dropWhile isUnescaped with
  | nil => simp [Step.isPlain]
  | cons d t =>
    rw [behind] at first
    have escaped : escapeTextChar d ≠ [d] := by simpa [isUnescaped] using first
    rcases escapeTextChar_cases d with ⟨-, code⟩ | ⟨-, code⟩ | ⟨-, code⟩ | ⟨-, code⟩
    · simp [code, Step.isPlain]
    · simp [code, Step.isPlain]
    · simp [code, Step.isPlain]
    · exact absurd code escaped

/-- Other characters are scanned together, up to the first that is a mark. -/
theorem scans_plain {c : Char} (lt : c ≠ '<') (amp : c ≠ '&') {s r : List Char}
    (inside : ∀ d ∈ s, Step.isPlain d = true) (mark : ∀ d ∈ r.head?, Step.isPlain d = false) :
    Scans none (c :: (s ++ r)) [.text (c :: s)] none r := by
  obtain ⟨taken, left⟩ := span_at_mark inside mark
  exact .of_next fun again => by simp [Step.next, lt, amp, taken, left]

/-- A text is scanned up to the next bracket, one reference or run of other characters after
the other. -/
theorem scans_text (s r : List Char) :
    Scans none (s.flatMap escapeTextChar ++ '<' :: r) [.text s] none ('<' :: r) := by
  cases s with
  | nil => exact (Scans.refl none _).congr .noText
  | cons c s =>
    rw [List.flatMap_cons, List.append_assoc]
    rcases escapeTextChar_cases c with ⟨rfl, code⟩ | ⟨rfl, code⟩ | ⟨rfl, code⟩ | ⟨⟨amp, lt, -⟩, code⟩
    · rw [code]
      exact ((scans_amp _).trans (scans_text s r)).congr (.texts ['&'] s)
    · rw [code]
      exact ((scans_lt _).trans (scans_text s r)).congr (.texts ['<'] s)
    · rw [code]
      exact ((scans_gt _).trans (scans_text s r)).congr (.texts ['>'] s)
    · have plain : ∀ d ∈ s.takeWhile isUnescaped, isUnescaped d = true :=
        fun d => List.mem_takeWhile_imp
      have parts : s.flatMap escapeTextChar ++ '<' :: r = s.takeWhile isUnescaped ++
          ((s.dropWhile isUnescaped).flatMap escapeTextChar ++ '<' :: r) := by
        rw [← List.append_assoc, ← flatMap_escapeTextChar_append plain, List.takeWhile_append_dropWhile]
      have first := scans_plain lt amp (fun d member => isPlain_of_isUnescaped (plain d member))
        (head_behind_plain s r)
      have whole := BuildAlike.texts (c :: s.takeWhile isUnescaped) (s.dropWhile isUnescaped)
      rw [List.cons_append, List.takeWhile_append_dropWhile] at whole
      rw [code, parts]
      exact (first.trans (scans_text (s.dropWhile isUnescaped) r)).congr whole
termination_by s.length
decreasing_by
  · exact Nat.lt_succ_self _
  · exact Nat.lt_succ_self _
  · exact Nat.lt_succ_self _
  · exact Nat.lt_succ_of_le (List.dropWhile_suffix isUnescaped).length_le

theorem scans_text_append (s : List Char) {tail : List Char} (bracket : tail.head? = some '<') :
    Scans none (s.flatMap escapeTextChar ++ tail) [.text s] none tail := by
  cases tail with
  | nil => cases bracket
  | cons c r =>
    obtain rfl : c = '<' := Option.some.inj bracket
    exact scans_text s r

theorem markup_letter {s : List Char} (letter : s.head?.any Char.isAlpha = true) (again : Bool) :
    Step.markup again s = Step.startTag again s := by
  unfold Step.markup
  split
  · cases letter
  · cases letter
  · cases letter
  · cases letter
  · cases letter
  · cases letter
  · exact if_pos letter

theorem scans_start {h : Head κ} (scanned : h.IsScanned)
    (apart : h.attributes.entries.IsChain areApart) (r : List Char) :
    Scans none ('<' :: (h.tag.toList ++ (writtenAttributes h.attributes.entries ++ '>' :: r)))
      [.start h.tag h.attributes false] (if isRaw h.tag then some h.tag else none) r := by
  refine .of_next fun again => ?_
  show Step.markup again _ = _
  rw [markup_letter (Tag.letter_append scanned.tag _), Step.startTag, Tag.opening_written scanned apart]
  rfl

theorem scans_bare {tag : String} (name : IsTag tag) (r : List Char) :
    Scans none ('<' :: (tag.toList ++ '>' :: r)) [.start tag .empty false]
      (if isRaw tag then some tag else none) r :=
  @scans_start Unit ⟨(), tag, .empty⟩ ⟨name, nofun⟩ .nil r

theorem scans_closed {tag : String} (name : IsTag tag) (r : List Char) :
    Scans none ('<' :: (tag.toList ++ '/' :: '>' :: r)) [.start tag .empty true] none r := by
  refine .of_next fun again => ?_
  show Step.markup again _ = _
  rw [markup_letter (Tag.letter_append name _), Step.startTag, Tag.opening_closed name]
  rfl

theorem scans_attributes {tag : String} (name : IsTag tag) {s r : List Char}
    {found : List (String × String)} (starts : Tag.dropGap s = s)
    (read : Tag.attributes true s = (found, '>' :: r)) :
    Scans none ('<' :: (tag.toList ++ ' ' :: s)) [.start tag (.ofList found) false]
      (if isRaw tag then some tag else none) r := by
  refine .of_next fun again => ?_
  show Step.markup again _ = _
  rw [markup_letter (Tag.letter_append name _), Step.startTag, Tag.opening_of_attributes name starts read]
  rfl

theorem scans_finish {tag : String} (name : IsTag tag) (closes : closesItself tag) (r : List Char) :
    Scans none ('<' :: '/' :: (tag.toList ++ '>' :: r)) [.finish tag] none r :=
  .of_next fun again => endTag_written name closes again r

theorem endsRaw_of_ne {name s : List Char} {c : Char} (other : c ≠ '<') :
    Step.endsRaw name (c :: s) = false := by
  simp [Step.endsRaw, after?, Ne.symm other]

theorem rawContent?_append {name s r : List Char} (plain : ∀ c ∈ s, c ≠ '<')
    (ends : Step.endsRaw name ('<' :: r) = true) :
    Step.rawContent? name (s ++ '<' :: r) = some (s, '<' :: r) := by
  induction s with
  | nil => simp [Step.rawContent?, ends]
  | cons c s ih =>
    obtain ⟨first, others⟩ := List.forall_mem_cons.mp plain
    simp [Step.rawContent?, endsRaw_of_ne first, ih others]

/-- Raw content is scanned up to its end tag. -/
theorem scans_raw {tag : String} (name : IsTag tag) (raw : isRaw tag = true) {s : List Char}
    (plain : ∀ c ∈ s, c ≠ '<') (r : List Char) :
    Scans (some tag) (s ++ '<' :: '/' :: (tag.toList ++ '>' :: r)) [.text s, .finish tag] none r := by
  have ends : Step.endsRaw tag.toList ('<' :: '/' :: (tag.toList ++ '>' :: r)) = true ∧
      ∀ c ∈ tag.toList, Tag.isEndNameChar c = true := by
    simp only [isRaw, Step.rawTags, List.contains_iff_mem, List.mem_cons, List.not_mem_nil,
      or_false] at raw
    rcases raw with rfl | rfl
    · exact ⟨rfl, List.all_eq_true.mp rfl⟩
    · exact ⟨rfl, List.all_eq_true.mp rfl⟩
  have step (again : Bool) : Step.next again (some tag) (s ++ '<' :: '/' :: (tag.toList ++ '>' :: r)) =
      .advance (Step.textIfAny s ++ [.finish tag]) none r := by
    simp [Step.next, Step.inRaw, rawContent?_append plain ends.1, Tag.closing?_plain name ends.2]
  exact (Scans.of_next step).congr ((BuildAlike.textIfAny s).append fun _ => rfl)

namespace Content

/-- Content of nothing but bare text is printed as that text. -/
theorem written_of_isBare {c : Content κ} (texts : c.heads = []) (bare : c.IsBare) :
    c.written = c.run ∧ BuildAlike c.tokens [.text c.run] ∧ ∀ d ∈ c.run, isUnescaped d = true := by
  induction c with
  | nil => exact ⟨rfl, .noText, nofun⟩
  | text s rest ih =>
    obtain ⟨printed, alike, plain⟩ := ih texts bare.2
    have own := flatMap_escapeTextChar_append bare.1 []
    rw [List.append_nil, List.flatMap_nil, List.append_nil] at own
    refine ⟨?_, ?_, fun d member => ?_⟩
    · rw [written, run, printed, writtenText, own]
    · exact ((BuildAlike.refl [.text s.toList]).append alike).trans (.texts s.toList rest.run)
    · exact (List.mem_append.mp member).elim (bare.1 d) (plain d)
  | element head inner rest => simp [heads] at texts

/-- The content is scanned behind any text, up to the bracket of the next tag. -/
def Rescans (c : Content κ) : Prop :=
  ∀ before r, Scans none (before.flatMap escapeTextChar ++ (c.written ++ '<' :: r))
    (.text before :: c.tokens) none ('<' :: r)

theorem Rescans.alone {c : Content κ} (rescans : c.Rescans) (r : List Char) :
    Scans none (c.written ++ '<' :: r) c.tokens none ('<' :: r) :=
  (rescans [] r).congr (BuildAlike.noText.symm.append (.refl c.tokens))

theorem head_written_element (head : Head κ) (inner rest : Content κ) (r : List Char) :
    ((element head inner rest).written ++ r).head? = some '<' := rfl

theorem written_element (head : Head κ) (inner rest : Content κ) :
    (element head inner rest).written = (element head inner .nil).written ++ rest.written := by
  rw [written_element_append]
  cases void : isVoid head.tag <;> simp [written, void]

theorem tokens_element (head : Head κ) (inner rest : Content κ) :
    (element head inner rest).tokens = (element head inner .nil).tokens ++ rest.tokens := by
  simp [tokens]

/-- An element is scanned whatever stands behind it. -/
theorem scans_element {head : Head κ} {inner : Content κ} (scanned : head.IsScanned)
    (texts : isRaw head.tag = true → inner.heads = []) (faithful : (element head inner .nil).IsFaithful)
    (rescans : inner.Rescans) (r : List Char) :
    Scans none ((element head inner .nil).written ++ r) (element head inner .nil).tokens none r := by
  obtain ⟨tags, -, bare, -, -⟩ := faithful
  cases void : isVoid head.tag with
  | true =>
    have start := scans_start scanned tags.attributes r
    rw [not_isRaw_of_emptyTags (emptyTags_of_isVoid void)] at start
    simpa [written, tokens, void] using start
  | false =>
    have whole : (element head inner .nil).written ++ r =
        '<' :: (head.tag.toList ++ (writtenAttributes head.attributes.entries ++ '>' ::
          (inner.written ++ '<' :: '/' :: (head.tag.toList ++ '>' :: r)))) := by
      simp [written, void]
    have parts : (element head inner .nil).tokens =
        [.start head.tag head.attributes false] ++ (inner.tokens ++ [.finish head.tag]) := by
      simp [tokens, void]
    rw [whole, parts]
    refine (scans_start scanned tags.attributes _).trans ?_
    cases raw : isRaw head.tag with
    | true =>
      obtain ⟨printed, alike, plain⟩ := written_of_isBare (texts raw) (bare raw)
      rw [printed]
      exact (scans_raw scanned.tag raw (fun d member => ne_of_isUnescaped (plain d member)) r).congr
        (alike.symm.append (.refl [.finish head.tag]))
    | false => exact (rescans.alone _).trans (scans_finish scanned.tag tags.tag r)

theorem rescans {c : Content κ} (read : c.IsRead) (faithful : c.IsFaithful) : c.Rescans := by
  induction c with
  | nil => exact scans_text
  | text s rest ih =>
    intro before r
    have joined := ih read faithful (before ++ s.toList) r
    rw [List.flatMap_append, List.append_assoc] at joined
    rw [written, List.append_assoc]
    exact joined.congr ((BuildAlike.texts before s.toList).symm.append (.refl rest.tokens))
  | element head inner rest ih₁ ih₂ =>
    intro before r
    obtain ⟨scanned, texts, readInner, readRest⟩ := read
    obtain ⟨tags, empty, bare, faithfulInner, faithfulRest⟩ := faithful
    have own := @scans_element κ head inner scanned texts ⟨tags, empty, bare, faithfulInner, trivial⟩
      (ih₁ readInner faithfulInner) (rest.written ++ '<' :: r)
    have bracket := head_written_element head inner .nil (rest.written ++ '<' :: r)
    rw [written_element, tokens_element, List.append_assoc]
    exact (scans_text_append before bracket).trans (own.trans ((ih₂ readRest faithfulRest).alone r))

end Content

/-- A printed tree is scanned as the tokens of the tree. -/
theorem Element.scans_print {e : Element κ} (read : e.IsRead) (faithful : e.IsFaithful) :
    Scans none e.print.toList (Content.element e.head e.content .nil).tokens none [] := by
  rw [toList_print, ← List.append_nil (Content.written _)]
  exact Content.scans_element read.head read.raw
    ⟨faithful.head, faithful.empty, faithful.raw, faithful.content, trivial⟩
    (Content.rescans read.content faithful.content) []

end Clipping.Markup

import Clipping.Proofs.Markup.Printed
import Clipping.Proofs.Markup.Scanned
import Clipping.Proofs.Text.Trimmed
import Mathlib.Data.List.Chain

/-! Printed tags are read back. Each part ends at the first character that it cannot have:
a name at a space or bracket, a value at its quote. Two kinds of tags are different: an empty
value has no sign, so it takes the sign of a name after it, and the blanks at the end of a
tag are lost in its end tag. -/
namespace Clipping

namespace Markup

open Text

theorem through?_append {c : Char} {s : List Char} (inside : ∀ d ∈ s, d ≠ c) (r : List Char) :
    through? c (s ++ c :: r) = some (s ++ [c], r) := by
  induction s with
  | nil => simp [through?]
  | cons d s ih =>
    obtain ⟨first, others⟩ := List.forall_mem_cons.mp inside
    simp [through?, first, ih others]

namespace Entity

theorem unescape_cons {c : Char} (plain : c ≠ '&') (s : List Char) :
    unescape (c :: s) = c :: unescape s := by
  rw [unescape, if_neg plain]

theorem unescape_amp (s : List Char) :
    unescape ('&' :: 'a' :: 'm' :: 'p' :: ';' :: s) = '&' :: unescape s := by
  have found : inValue? ('a' :: 'm' :: 'p' :: ';' :: s) = some (['&'], 4) := rfl
  rw [unescape, if_pos rfl, found]
  rfl

theorem unescape_quot (s : List Char) :
    unescape ('&' :: 'q' :: 'u' :: 'o' :: 't' :: ';' :: s) = '\x22' :: unescape s := by
  have found : inValue? ('q' :: 'u' :: 'o' :: 't' :: ';' :: s) = some (['\x22'], 5) := rfl
  rw [unescape, if_pos rfl, found]
  rfl

end Entity

theorem unescape_writtenValue (value : String) :
    Entity.unescape (writtenValue value) = value.toList := by
  unfold writtenValue
  induction value.toList with
  | nil => rw [List.flatMap_nil, Entity.unescape]
  | cons c s ih =>
    rw [List.flatMap_cons]
    rcases escapeValueChar_cases c with ⟨rfl, code⟩ | ⟨rfl, code⟩ | ⟨⟨amp, -⟩, code⟩
    · rw [code]
      exact (Entity.unescape_amp _).trans (congrArg _ ih)
    · rw [code]
      exact (Entity.unescape_quot _).trans (congrArg _ ih)
    · rw [code]
      exact (Entity.unescape_cons amp _).trans (congrArg _ ih)

/-- An empty value does not stand before a name that starts with a sign. -/
def areApart (a b : String × String) : Prop := a.2 = "" → b.1.toList.head? ≠ some '='

instance (a b : String × String) : Decidable (areApart a b) :=
  inferInstanceAs (Decidable (_ → _))

/-- A tag is not just blanks behind the characters that an end tag reads. -/
def closesItself (tag : String) : Prop :=
  dropBlank (tag.toList.dropWhile Tag.isEndNameChar) = [] →
    tag.toList.dropWhile Tag.isEndNameChar = []

instance (tag : String) : Decidable (closesItself tag) := inferInstanceAs (Decidable (_ → _))

/-- The tags of the element are read as they are printed. -/
structure Head.IsFaithful {κ : Type} (h : Head κ) : Prop where
  attributes : h.attributes.entries.IsChain areApart
  tag : closesItself h.tag

namespace Tag

theorem assigned?_quoted (value : String) (r : List Char) :
    assigned? ('=' :: '\x22' :: (writtenValue value ++ '\x22' :: r)) =
      some (writtenValue value, true, r) := by
  have closed := through?_append (@ne_of_mem_writtenValue value) r
  have sign : dropBlank ('=' :: '\x22' :: (writtenValue value ++ '\x22' :: r)) =
    '=' :: '\x22' :: (writtenValue value ++ '\x22' :: r) := rfl
  have quote : dropBlank ('\x22' :: (writtenValue value ++ '\x22' :: r)) =
    '\x22' :: (writtenValue value ++ '\x22' :: r) := rfl
  simp [assigned?, sign, quote, isQuote, closed]

theorem assigned?_none {s : List Char} (bare : (dropBlank s).head? ≠ some '=') : assigned? s = none := by
  have same : (dropBlank s).dropWhile (· == '=') = dropBlank s := by
    cases start : dropBlank s with
    | nil => rfl
    | cons c rest =>
      have other : c ≠ '=' := by simpa [start] using bare
      simp [other]
  simp [assigned?, same]

/-- What follows the entries up to the end of a tag. -/
def written (entries : List (String × String)) (r : List Char) : List Char :=
  writtenAttributes entries ++ '>' :: r

theorem written_cons (entry : String × String) (entries : List (String × String)) (r : List Char) :
    written (entry :: entries) r =
      ' ' :: (entry.1.toList ++ (writtenSign entry.2 ++ written entries r)) := by
  simp [written, writtenAttributes]

/-- Behind an attribute stands a space or the end of the tag. -/
theorem head_written (entries : List (String × String)) (r : List Char) :
    ∀ c ∈ (written entries r).head?, c = ' ' ∨ c = '>' := by
  cases entries with
  | nil => simp [written, writtenAttributes]
  | cons entry rest => simp [written_cons]

variable {entry : String × String} {rest : List (String × String)}

theorem dropBlank_written_cons (name : IsAttributeName entry.1) (r : List Char) :
    dropBlank (written (entry :: rest) r) =
      entry.1.toList ++ (writtenSign entry.2 ++ written rest r) := by
  obtain ⟨c, s, chars, first, -⟩ := name.first
  simp only [Bool.or_eq_false_iff] at first
  have space : isBlank ' ' = true := rfl
  simp [written_cons, chars, dropBlank, space, first.1.1]

theorem dropGap_written_cons (name : IsAttributeName entry.1) (r : List Char) :
    dropGap (written (entry :: rest) r) =
      entry.1.toList ++ (writtenSign entry.2 ++ written rest r) := by
  obtain ⟨c, s, chars, first, -⟩ := name.first
  simp only [Bool.or_eq_false_iff] at first
  have space : isBlank ' ' = true := rfl
  have slash : c ≠ '/' := by simpa using first.1.2
  simp [written_cons, chars, dropGap, space, first.1.1, slash]

/-- There is a gap before every attribute. -/
theorem dropGap_written_shorter {entries : List (String × String)}
    (names : ∀ entry ∈ entries, IsAttributeName entry.1) (r : List Char) :
    entries = [] ∨ (dropGap (written entries r)).length < (written entries r).length := by
  cases entries with
  | nil => exact .inl rfl
  | cons entry rest =>
    rw [dropGap_written_cons (names entry List.mem_cons_self), written_cons]
    exact .inr (Nat.lt_succ_self _)

theorem assigned?_written (names : ∀ other ∈ rest, IsAttributeName other.1)
    (apart : ∀ other ∈ rest.head?, other.1.toList.head? ≠ some '=') (r : List Char) :
    assigned? (written rest r) = none := by
  refine assigned?_none ?_
  cases rest with
  | nil =>
    have bracket : dropBlank (written [] r) = '>' :: r := rfl
    simp [bracket]
  | cons other others =>
    have name := names other List.mem_cons_self
    obtain ⟨d, t, chars, -⟩ := name.first
    have different := apart other rfl
    rw [dropBlank_written_cons name]
    simpa [chars] using different

/-- An attribute ends at the sign of its value, or at what stands behind an empty one. -/
theorem attribute?_written (name : IsAttributeName entry.1)
    (names : ∀ other ∈ rest, IsAttributeName other.1) (apart : ∀ other ∈ rest.head?, areApart entry other)
    (r : List Char) :
    ∃ quoted, attribute? (entry.1.toList ++ (writtenSign entry.2 ++ written rest r)) =
      some (⟨entry.1.toList, writtenValue entry.2, quoted⟩, written rest r) := by
  obtain ⟨c, s, chars, first, inside⟩ := name.first
  rw [chars]
  by_cases empty : entry.2 = ""
  · have mark : ∀ d ∈ (written rest r).head?, isAttributeChar d = false := by
      intro d stands
      rcases head_written rest r d stands with rfl | rfl <;> rfl
    obtain ⟨taken, left⟩ := span_at_mark inside mark
    have bare := assigned?_written names (fun other next => apart other next empty) r
    refine ⟨((c :: s).getLast?).any isQuote, ?_⟩
    simp [attribute?, first, writtenSign, empty, taken, left, bare, writtenValue]
  · have sign : writtenSign entry.2 ++ written rest r =
        '=' :: '\x22' :: (writtenValue entry.2 ++ '\x22' :: written rest r) := by
      simp [writtenSign, empty]
    have mark : ∀ d ∈ (writtenSign entry.2 ++ written rest r).head?, isAttributeChar d = false := by
      rw [sign]
      simp [isAttributeChar]
    obtain ⟨taken, left⟩ := span_at_mark inside mark
    refine ⟨true, ?_⟩
    rw [sign] at taken left ⊢
    simp [attribute?, first, taken, left, assigned?_quoted]

theorem attributes_cons {s rest behind : List Char} {a : Written} {found : List (String × String)}
    (first : attribute? s = some (a, rest))
    (others : attributes (a.quoted || (dropGap rest).length < rest.length) (dropGap rest) =
      (found, behind)) :
    attributes true s =
      ((lower (String.ofList a.name), String.ofList (Entity.unescape a.value)) :: found, behind) := by
  rw [attributes, if_pos rfl]
  split
  next none => simp [none] at first
  next some =>
    rw [first] at some
    cases some
    simp only [others]

theorem attributes_nil (ready : Bool) (r : List Char) : attributes ready ('>' :: r) = ([], '>' :: r) := by
  unfold attributes
  split <;> rfl

theorem attributes_written {entries : List (String × String)} {ready : Bool}
    (names : ∀ entry ∈ entries, IsAttributeName entry.1) (apart : entries.IsChain areApart)
    (r : List Char) (starts : entries = [] ∨ ready = true) :
    attributes ready (dropGap (written entries r)) = (entries, '>' :: r) := by
  induction entries generalizing ready with
  | nil => exact attributes_nil ready r
  | cons entry rest ih =>
    obtain ⟨name, names⟩ := List.forall_mem_cons.mp names
    obtain rfl : ready = true := by simpa using starts
    obtain ⟨first, others⟩ := List.isChain_cons.mp apart
    obtain ⟨quoted, found⟩ := attribute?_written name names first r
    have gap := dropGap_written_shorter names r
    have later := @ih (quoted || (dropGap (written rest r)).length < (written rest r).length) names others
      (gap.imp_right fun shorter => by simp [shorter])
    rw [dropGap_written_cons name, attributes_cons found later]
    simp [name.lowered, unescape_writtenValue]

/-- The start tag is read with the tag and the attributes that are printed. -/
theorem opening_written {κ : Type} {h : Head κ} (scanned : h.IsScanned)
    (apart : h.attributes.entries.IsChain areApart) (r : List Char) :
    opening (h.tag.toList ++ (writtenAttributes h.attributes.entries ++ '>' :: r)) =
      .tag h.tag h.attributes false r := by
  show opening (h.tag.toList ++ written h.attributes.entries r) = _
  have mark : ∀ c ∈ (written h.attributes.entries r).head?, isNameChar c = false := by
    intro c stands
    rcases head_written _ r c stands with rfl | rfl <;> rfl
  obtain ⟨taken, left⟩ := span_at_mark scanned.tag.inside mark
  have gap := dropGap_written_shorter scanned.names r
  unfold opening
  simp only [taken, left]
  rw [attributes_written scanned.names apart r (gap.imp_right fun shorter => by simp [shorter])]
  simp [scanned.tag.lowered]

theorem opening_of_attributes {tag : String} (name : IsTag tag) {s r : List Char}
    {found : List (String × String)} (starts : dropGap s = s)
    (read : attributes true s = (found, '>' :: r)) :
    opening (tag.toList ++ ' ' :: s) = .tag tag (.ofList found) false r := by
  obtain ⟨taken, left⟩ := @span_at_mark isNameChar tag.toList (' ' :: s) name.inside
    (by simp [isNameChar])
  have gap : dropGap (' ' :: s) = s := starts
  unfold opening
  simp [taken, left, gap, read, name.lowered]

theorem opening_closed {tag : String} (name : IsTag tag) (r : List Char) :
    opening (tag.toList ++ '/' :: '>' :: r) = .tag tag .empty true r := by
  obtain ⟨taken, left⟩ := @span_at_mark isNameChar tag.toList ('/' :: '>' :: r) name.inside
    (by simp [isNameChar])
  have ends (ready : Bool) : attributes ready ('/' :: '>' :: r) = ([], '/' :: '>' :: r) := by
    unfold attributes
    split <;> rfl
  have gap : dropGap ('/' :: '>' :: r) = '/' :: '>' :: r := rfl
  unfold opening
  simp only [taken, left, gap, ends, String.ofList_toList, name.lowered]
  rfl

theorem isBlank_of_isAlpha {c : Char} (letter : c.isAlpha = true) : isBlank c = false := by
  refine Bool.eq_false_iff.mpr fun blank => ?_
  rw [isAlpha_iff] at letter
  simp only [isBlank, Bool.or_eq_true, Bool.and_eq_true, decide_eq_true_eq, beq_iff_eq] at blank
  omega

theorem closing?_letter {s : List Char} (letter : s.head?.any Char.isAlpha = true) :
    closing? s = match dropBlank (s.dropWhile isEndNameChar) with
      | '>' :: rest => some (lower (String.ofList (s.takeWhile isEndNameChar)), rest)
      | _ => none := by
  cases s with
  | nil => cases letter
  | cons c s =>
    have letter : c.isAlpha = true := letter
    have visible : isBlank c = false := isBlank_of_isAlpha letter
    have plain : isEndNameChar c = true := by simp [isEndNameChar, Char.isAlphanum, letter]
    have start : dropBlank (c :: s) = c :: s := by simp [dropBlank, visible]
    rw [closing?, start, List.dropWhile_cons_of_pos plain, List.takeWhile_cons_of_pos plain]
    exact if_pos letter

theorem letter_append {tag : String} (name : IsTag tag) (r : List Char) :
    (tag.toList ++ r).head?.any Char.isAlpha = true := by
  have letter := name.letter
  cases chars : tag.toList with
  | nil => simp [chars] at letter
  | cons c s => simpa [chars] using letter

theorem closing?_plain {tag : String} (name : IsTag tag)
    (plain : ∀ c ∈ tag.toList, isEndNameChar c = true) (r : List Char) :
    closing? (tag.toList ++ '>' :: r) = some (tag, r) := by
  obtain ⟨taken, left⟩ := @span_at_mark isEndNameChar tag.toList ('>' :: r) plain (by simp [isEndNameChar])
  have bracket : dropBlank ('>' :: r) = '>' :: r := rfl
  rw [closing?_letter (letter_append name _), taken, left, bracket, String.ofList_toList]
  simp only [name.lowered]

/-- A tag with other characters, if they are not just blanks, is not. -/
theorem closing?_other {tag : String} (name : IsTag tag)
    (other : dropBlank (tag.toList.dropWhile isEndNameChar) ≠ []) (r : List Char) :
    closing? (tag.toList ++ '>' :: r) = none := by
  have left : tag.toList.dropWhile isEndNameChar ≠ [] := fun none => other (by rw [none]; rfl)
  obtain ⟨d, t, behind⟩ := List.exists_cons_of_ne_nil other
  have bracket : d ≠ '>' := by
    rintro rfl
    have member : '>' ∈ tag.toList := ((dropBlank_suffix _).trans (List.dropWhile_suffix _)).subset
      (behind ▸ List.mem_cons_self)
    cases name.inside '>' member
  have shown : dropBlank ((tag.toList ++ '>' :: r).dropWhile isEndNameChar) = d :: (t ++ '>' :: r) := by
    unfold dropBlank at behind ⊢
    simp [List.dropWhile_append, left, behind]
  rw [closing?_letter (letter_append name _), shown]
  split
  next same => exact absurd (List.cons.inj same).1 bracket
  next => rfl

end Tag

theorem endTag_written {tag : String} (name : IsTag tag) (closes : closesItself tag) (again : Bool)
    (r : List Char) :
    Token.Step.endTag again (tag.toList ++ '>' :: r) = .advance [.finish tag] none r := by
  have bracket : ∀ c ∈ tag.toList, c ≠ '>' := by
    rintro c member rfl
    cases name.inside '>' member
  have taken := (@span_at_mark Tag.isNameChar tag.toList ('>' :: r) name.inside
    (by simp [Tag.isNameChar])).1
  unfold Token.Step.endTag
  rw [through?_append bracket]
  by_cases plain : tag.toList.dropWhile Tag.isEndNameChar = []
  · simp only [Tag.closing?_plain name (List.dropWhile_eq_nil_iff.mp plain) r]
  · simp only [Tag.closing?_other name (fun blank => plain (closes blank)) r,
      Tag.letter_append name, if_true, taken, String.ofList_toList, name.lowered]

end Markup

end Clipping

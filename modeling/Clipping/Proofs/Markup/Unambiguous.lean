import Clipping.Proofs.Markup.Printed
import Clipping.Text.Blank

/-! Flat markup has one reading: two trees in normal form that are printed alike are the
same, whatever stands in their text and in the values of their attributes. Printed markup
falls into parts in one way only, from its start: a text or a value goes to the next bracket
or quote, since it has none, and a name to the next mark. -/
namespace Clipping.Markup

variable {κ μ : Type}

structure IsPlainName (name : String) : Prop where
  written : name ≠ ""
  plain : ∀ c ∈ name.toList, Text.isBlank c = false ∧ c ∉ ['<', '>', '/', '=', '\x22']

instance (name : String) : Decidable (IsPlainName name) :=
  decidable_of_iff (name ≠ "" ∧ (name.toList.all fun c =>
      !Text.isBlank c && !(['<', '>', '/', '=', '\x22'].contains c)) = true)
    ⟨fun plain => ⟨plain.1, by simpa using plain.2⟩,
      fun plain => ⟨plain.written, by simpa using plain.plain⟩⟩

structure Head.IsNormal (h : Head κ) : Prop where
  tag : IsPlainName h.tag
  lowered : lower h.tag = h.tag
  names : ∀ entry ∈ h.attributes.entries, IsPlainName entry.1

def Content.startsWithText : Content κ → Bool
  | text _ _ => true
  | _ => false

/-- Text is not empty and not cut in two; void elements have no content. -/
def Content.IsNormal : Content κ → Prop
  | nil => True
  | text run rest => run ≠ "" ∧ rest.startsWithText = false ∧ rest.IsNormal
  | element head inner rest =>
    head.IsNormal ∧ (isVoid head.tag = true → inner = nil) ∧ inner.IsNormal ∧ rest.IsNormal

structure Element.IsNormal (e : Element κ) : Prop where
  head : e.head.IsNormal
  void : isVoid e.head.tag = true → e.content = .nil
  content : e.content.IsNormal

theorem Element.IsNormal.alone {e : Element κ} (normal : e.IsNormal) :
    (Content.element e.head e.content .nil).IsNormal :=
  ⟨normal.head, normal.void, normal.content, trivial⟩

/-- A text that ends at its first mark is told from what follows. -/
theorem split_at_mark {p : Char → Bool} {s s' r r' : List Char} (inside : ∀ c ∈ s, p c = true)
    (inside' : ∀ c ∈ s', p c = true) (mark : ∀ c ∈ r.head?, p c = false)
    (mark' : ∀ c ∈ r'.head?, p c = false) (same : s ++ r = s' ++ r') : s = s' ∧ r = r' := by
  induction s generalizing s' with
  | nil =>
    cases s' with
    | nil => exact ⟨rfl, same⟩
    | cons c s' =>
      obtain rfl : r = c :: (s' ++ r') := same
      have ends : p c = false := mark c rfl
      simp [inside' c List.mem_cons_self] at ends
  | cons c s ih =>
    cases s' with
    | nil =>
      obtain rfl : c :: (s ++ r) = r' := same
      have ends : p c = false := mark' c rfl
      simp [inside c List.mem_cons_self] at ends
    | cons c' s' =>
      obtain ⟨rfl, rest⟩ := List.cons.inj same
      obtain ⟨rfl, rfl⟩ := ih (fun d member => inside d (List.mem_cons_of_mem c member))
        (fun d member => inside' d (List.mem_cons_of_mem c member)) rest
      exact ⟨rfl, rfl⟩

/-- Where no character is written as the start of another, texts are written differently. -/
theorem flatMap_injective {f : Char → List Char} (written : ∀ c, f c ≠ [])
    (code : ∀ c d r r', f c ++ r = f d ++ r' → c = d) {s t : List Char}
    (same : s.flatMap f = t.flatMap f) : s = t := by
  induction s generalizing t with
  | nil =>
    cases t with
    | nil => rfl
    | cons d t => simp [written d] at same
  | cons c s ih =>
    cases t with
    | nil => simp [written c] at same
    | cons d t =>
      simp only [List.flatMap_cons] at same
      obtain rfl := code c d _ _ same
      rw [ih (List.append_cancel_left same)]

theorem escapeTextChar_code {c d : Char} {r r' : List Char}
    (same : escapeTextChar c ++ r = escapeTextChar d ++ r') : c = d := by
  rcases escapeTextChar_cases c with ⟨rfl, code⟩ | ⟨rfl, code⟩ | ⟨rfl, code⟩ | ⟨_, code⟩ <;>
    rcases escapeTextChar_cases d with ⟨rfl, code'⟩ | ⟨rfl, code'⟩ | ⟨rfl, code'⟩ | ⟨_, code'⟩
  all_goals grind

theorem escapeValueChar_code {c d : Char} {r r' : List Char}
    (same : escapeValueChar c ++ r = escapeValueChar d ++ r') : c = d := by
  rcases escapeValueChar_cases c with ⟨rfl, code⟩ | ⟨rfl, code⟩ | ⟨_, code⟩ <;>
    rcases escapeValueChar_cases d with ⟨rfl, code'⟩ | ⟨rfl, code'⟩ | ⟨_, code'⟩
  all_goals grind

theorem escapeTextChar_ne_nil (c : Char) : escapeTextChar c ≠ [] := by
  rcases escapeTextChar_cases c with ⟨-, code⟩ | ⟨-, code⟩ | ⟨-, code⟩ | ⟨-, code⟩ <;> simp [code]

theorem escapeValueChar_ne_nil (c : Char) : escapeValueChar c ≠ [] := by
  rcases escapeValueChar_cases c with ⟨-, code⟩ | ⟨-, code⟩ | ⟨-, code⟩ <;> simp [code]

theorem writtenText_injective {s t : String} (same : writtenText s = writtenText t) : s = t :=
  String.toList_inj.mp
    (flatMap_injective escapeTextChar_ne_nil (fun _ _ _ _ => escapeTextChar_code) same)

theorem writtenValue_injective {s t : String} (same : writtenValue s = writtenValue t) : s = t :=
  String.toList_inj.mp
    (flatMap_injective escapeValueChar_ne_nil (fun _ _ _ _ => escapeValueChar_code) same)

theorem writtenText_ne_nil {s : String} (written : s ≠ "") : writtenText s ≠ [] :=
  fun none => written (@writtenText_injective s "" none)

def isNameMark (c : Char) : Bool := Text.isBlank c || ['<', '>', '/', '=', '\x22'].contains c

theorem IsPlainName.not_mark {name : String} (plain : IsPlainName name) :
    ∀ c ∈ name.toList, (!isNameMark c) = true := by
  intro c member
  obtain ⟨visible, other⟩ := plain.plain c member
  simp [isNameMark, visible, other]

theorem mark_of_writtenSign {value : String} {r : List Char} (mark : ∀ c ∈ r.head?, isNameMark c = true) :
    ∀ c ∈ (writtenSign value ++ r).head?, (!isNameMark c) = false := by
  unfold writtenSign
  split
  · simpa using mark
  · simp [isNameMark]

theorem writtenAttributes_head_ne (entries : List (String × String)) (r : List Char) :
    (writtenAttributes entries ++ '>' :: r).head? ≠ some '=' := by
  cases entries with
  | nil => simp [writtenAttributes]
  | cons entry rest => simp [writtenAttributes]

theorem writtenAttributes_head (entries : List (String × String)) (r : List Char) :
    ∀ c ∈ (writtenAttributes entries ++ '>' :: r).head?, isNameMark c = true := by
  cases entries with
  | nil => simp [writtenAttributes, isNameMark]
  | cons entry rest => simp [writtenAttributes, isNameMark]; decide

/-- A sign and its value are told from what follows, which starts with no sign. -/
theorem writtenSign_inj {value value' : String} {r r' : List Char} (ends : r.head? ≠ some '=')
    (ends' : r'.head? ≠ some '=') (same : writtenSign value ++ r = writtenSign value' ++ r') :
    value = value' ∧ r = r' := by
  unfold writtenSign at same
  by_cases empty : value = "" <;> by_cases empty' : value' = ""
  · rw [if_pos empty, if_pos empty'] at same
    exact ⟨empty.trans empty'.symm, same⟩
  · rw [if_pos empty, if_neg empty', List.nil_append] at same
    exact absurd (congrArg List.head? same) ends
  · rw [if_neg empty, if_pos empty', List.nil_append] at same
    exact absurd (congrArg List.head? same.symm) ends'
  · rw [if_neg empty, if_neg empty'] at same
    simp only [List.cons_append, List.append_assoc, List.cons.injEq, true_and] at same
    have quoted := @split_at_mark (· != '\x22') (writtenValue value) (writtenValue value')
      ('\x22' :: r) ('\x22' :: r') (by simpa using ne_of_mem_writtenValue)
      (by simpa using ne_of_mem_writtenValue) (by simp) (by simp) same
    exact ⟨writtenValue_injective quoted.1, (List.cons.inj quoted.2).2⟩

/-- The attributes of a tag are told from what follows the tag. -/
theorem writtenAttributes_inj {entries entries' : List (String × String)}
    (names : ∀ entry ∈ entries, IsPlainName entry.1)
    (names' : ∀ entry ∈ entries', IsPlainName entry.1) {r r' : List Char}
    (same : writtenAttributes entries ++ '>' :: r = writtenAttributes entries' ++ '>' :: r') :
    entries = entries' ∧ r = r' := by
  induction entries generalizing entries' with
  | nil =>
    cases entries' with
    | nil => exact ⟨rfl, (List.cons.inj same).2⟩
    | cons entry rest => simp [writtenAttributes] at same
  | cons entry rest ih =>
    cases entries' with
    | nil => simp [writtenAttributes] at same
    | cons entry' rest' =>
      obtain ⟨name, value⟩ := entry
      obtain ⟨name', value'⟩ := entry'
      obtain ⟨plain, others⟩ := List.forall_mem_cons.mp names
      obtain ⟨plain', others'⟩ := List.forall_mem_cons.mp names'
      simp only [writtenAttributes, List.cons_append, List.append_assoc, List.cons.injEq,
        true_and] at same
      have parts := split_at_mark plain.not_mark plain'.not_mark
        (mark_of_writtenSign (writtenAttributes_head rest r))
        (mark_of_writtenSign (writtenAttributes_head rest' r')) same
      have signs := writtenSign_inj (writtenAttributes_head_ne rest r)
        (writtenAttributes_head_ne rest' r') parts.2
      obtain rfl : name = name' := String.toList_inj.mp parts.1
      obtain rfl := signs.1
      obtain ⟨rfl, rfl⟩ := ih others others' signs.2
      exact ⟨rfl, rfl⟩

/-- A tag is told from what follows it. -/
theorem opening_inj {h : Head κ} {h' : Head μ} (normal : h.IsNormal) (normal' : h'.IsNormal)
    {r r' : List Char}
    (same : h.tag.toList ++ (writtenAttributes h.attributes.entries ++ '>' :: r) =
      h'.tag.toList ++ (writtenAttributes h'.attributes.entries ++ '>' :: r')) :
    h.withKey () = h'.withKey () ∧ r = r' := by
  have parts := split_at_mark normal.tag.not_mark normal'.tag.not_mark
    (by simpa using writtenAttributes_head h.attributes.entries r)
    (by simpa using writtenAttributes_head h'.attributes.entries r') same
  obtain ⟨entries, rest⟩ := writtenAttributes_inj normal.names normal'.names parts.2
  refine ⟨?_, rest⟩
  simp only [Head.withKey, String.toList_inj.mp parts.1, Assoc.ext entries]

theorem IsPlainName.head_ne {name : String} (plain : IsPlainName name) (r : List Char) :
    (name.toList ++ r).head? ≠ some '/' := by
  cases chars : name.toList with
  | nil => exact absurd (String.toList_inj.mp chars) plain.written
  | cons c rest =>
    intro first
    obtain rfl := Option.some.inj first
    have other := (plain.plain '/' (by simp [chars])).2
    simp at other

/-- What follows a text in normal form starts with a bracket. -/
theorem Content.head_written {c : Content κ} (other : c.startsWithText = false) (r : List Char) :
    (c.written ++ '<' :: r).head? = some '<' := by
  cases c with
  | nil => rfl
  | text run rest => simp [startsWithText] at other
  | element head inner rest => rfl

theorem Content.head_written_text {run : String} (written : run ≠ "") (rest : Content κ) (r : List Char) :
    ((text run rest).written ++ r).head? ≠ some '<' := by
  intro first
  cases chars : writtenText run with
  | nil => exact writtenText_ne_nil written chars
  | cons c s =>
    simp only [Content.written, chars, List.cons_append, List.head?_cons] at first
    exact @ne_of_mem_writtenText run c (by simp [chars]) (Option.some.inj first)

/-- The content of an element is told from its end tag. -/
theorem Content.written_inj {c : Content κ} {c' : Content μ} (normal : c.IsNormal)
    (normal' : c'.IsNormal) {r r' : List Char}
    (same : c.written ++ '<' :: '/' :: r = c'.written ++ '<' :: '/' :: r') :
    c.unkeyed = c'.unkeyed ∧ r = r' := by
  induction c generalizing c' r r' with
  | nil =>
    cases c' with
    | nil => exact ⟨rfl, (List.cons.inj (List.cons.inj same).2).2⟩
    | text run' rest' =>
      exact absurd (congrArg List.head? same).symm (head_written_text normal'.1 rest' _)
    | element head' inner' rest' =>
      rw [written_element_append] at same
      exact absurd (congrArg List.head? (List.cons.inj same).2).symm (normal'.1.tag.head_ne _)
  | text run rest ih =>
    cases c' with
    | nil => exact absurd (congrArg List.head? same) (head_written_text normal.1 rest _)
    | text run' rest' =>
      simp only [written, List.append_assoc] at same
      have parts := @split_at_mark (· != '<') (writtenText run) (writtenText run') _ _
        (by simpa using ne_of_mem_writtenText) (by simpa using ne_of_mem_writtenText)
        (by simp [head_written normal.2.1]) (by simp [head_written normal'.2.1]) same
      obtain ⟨inner, rfl⟩ := ih normal.2.2 normal'.2.2 parts.2
      rw [writtenText_injective parts.1]
      exact ⟨congrArg (Content.text run') inner, rfl⟩
    | element head' inner' rest' =>
      exact absurd (congrArg List.head? same) (head_written_text normal.1 rest _)
  | element head inner rest ih₁ ih₂ =>
    cases c' with
    | nil =>
      rw [written_element_append] at same
      exact absurd (congrArg List.head? (List.cons.inj same).2) (normal.1.tag.head_ne _)
    | text run' rest' =>
      exact absurd (congrArg List.head? same).symm (head_written_text normal'.1 rest' _)
    | element head' inner' rest' =>
      rw [written_element_append, written_element_append] at same
      obtain ⟨heads, tails⟩ := opening_inj normal.1 normal'.1 (List.cons.inj same).2
      have tags : head.tag = head'.tag := congrArg Head.tag heads
      rw [← tags] at tails
      cases void : isVoid head.tag with
      | true =>
        rw [void, if_pos rfl, if_pos rfl] at tails
        obtain ⟨rests, rfl⟩ := ih₂ normal.2.2.2 normal'.2.2.2 tails
        obtain rfl := normal.2.1 void
        obtain rfl := normal'.2.1 (tags ▸ void)
        refine ⟨?_, rfl⟩
        simp only [unkeyed, mapHeads, heads] at rests ⊢
        rw [rests]
      | false =>
        rw [void, if_neg Bool.false_ne_true, if_neg Bool.false_ne_true] at tails
        obtain ⟨inners, after⟩ := ih₁ normal.2.2.1 normal'.2.2.1 tails
        obtain ⟨rests, rfl⟩ := ih₂ normal.2.2.2 normal'.2.2.2
          (List.cons.inj (List.append_cancel_left after)).2
        refine ⟨?_, rfl⟩
        simp only [unkeyed, mapHeads, heads] at inners rests ⊢
        rw [inners, rests]

/-- Trees in normal form that are printed alike are the same tree. -/
theorem print_unambiguous {e : Element κ} {e' : Element μ} (normal : e.IsNormal)
    (normal' : e'.IsNormal) (same : e.print = e'.print) : e.unkeyed = e'.unkeyed := by
  have letters : (Content.element e.head e.content .nil).written ++ ['<', '/'] =
      (Content.element e'.head e'.content .nil).written ++ ['<', '/'] := by
    rw [← Element.toList_print, ← Element.toList_print, same]
  have alike := (Content.written_inj normal.alone normal'.alone letters).1
  simp only [Content.unkeyed, Content.mapHeads, Content.element.injEq] at alike
  simp only [Element.unkeyed, Element.mapHeads, alike.1, alike.2.1]

/-- A tree whose text and value look like tags. -/
def misleadingTree (key : κ) : Element κ :=
  ⟨⟨key, "p", .ofList [("title", "\x22><b>"), ("hidden", "")]⟩,
    .text "</p>&lt;" (.element ⟨key, "br", .empty⟩ .nil (.text "\n" .nil))⟩

theorem isNormal_misleadingTree (key : κ) : (misleadingTree key).IsNormal where
  head := ⟨show IsPlainName "p" by decide, show lower "p" = "p" by decide, show ∀ entry ∈
    (Assoc.ofList [("title", "\x22><b>"), ("hidden", "")]).entries, IsPlainName entry.1 by decide⟩
  void := nofun
  content := ⟨by decide, rfl, ⟨show IsPlainName "br" by decide, show lower "br" = "br" by decide,
    nofun⟩, fun _ => rfl, trivial, by decide, rfl, trivial⟩

theorem print_unambiguous_misleading :
    (misleadingTree 0).IsNormal ∧ (misleadingTree "other").IsNormal ∧
    (misleadingTree 0).print = (misleadingTree "other").print ∧
    (misleadingTree 0).unkeyed = (misleadingTree "other").unkeyed :=
  ⟨isNormal_misleadingTree 0, isNormal_misleadingTree "other", rfl,
    print_unambiguous (isNormal_misleadingTree 0) (isNormal_misleadingTree "other") rfl⟩

end Clipping.Markup

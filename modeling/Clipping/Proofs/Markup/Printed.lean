import Clipping.Markup.Printer

/-! Flat markup character by character. It does not tell which objects the elements of a
tree are. -/
namespace Clipping.Markup

variable {κ μ : Type}

def writtenText (run : String) : List Char := run.toList.flatMap escapeTextChar

def writtenValue (value : String) : List Char := value.toList.flatMap escapeValueChar

def writtenSign (value : String) : List Char :=
  if value = "" then [] else '=' :: '\x22' :: (writtenValue value ++ ['\x22'])

def writtenAttributes : List (String × String) → List Char
  | [] => []
  | (name, value) :: rest => ' ' :: (name.toList ++ (writtenSign value ++ writtenAttributes rest))

def Content.written : Content κ → List Char
  | nil => []
  | text run rest => writtenText run ++ rest.written
  | element head inner rest =>
    '<' :: (head.tag.toList ++ (writtenAttributes head.attributes.entries ++ '>' ::
      if isVoid head.tag then rest.written
      else inner.written ++ '<' :: '/' :: (head.tag.toList ++ '>' :: rest.written)))

theorem escapeTextChar_cases (c : Char) :
    c = '&' ∧ escapeTextChar c = ['&', 'a', 'm', 'p', ';'] ∨
    c = '<' ∧ escapeTextChar c = ['&', 'l', 't', ';'] ∨
    c = '>' ∧ escapeTextChar c = ['&', 'g', 't', ';'] ∨
    (c ≠ '&' ∧ c ≠ '<' ∧ c ≠ '>') ∧ escapeTextChar c = [c] := by
  unfold escapeTextChar
  by_cases amp : c = '&'
  · simp [amp]
  by_cases lt : c = '<'
  · simp [lt]
  by_cases gt : c = '>'
  · simp [gt]
  simp [amp, lt, gt]

theorem escapeValueChar_cases (c : Char) :
    c = '&' ∧ escapeValueChar c = ['&', 'a', 'm', 'p', ';'] ∨
    c = '\x22' ∧ escapeValueChar c = ['&', 'q', 'u', 'o', 't', ';'] ∨
    (c ≠ '&' ∧ c ≠ '\x22') ∧ escapeValueChar c = [c] := by
  unfold escapeValueChar
  by_cases amp : c = '&'
  · simp [amp]
  by_cases quote : c = '\x22'
  · simp [quote]
  simp [amp, quote]

theorem ne_of_mem_writtenText {s : String} : ∀ c ∈ writtenText s, c ≠ '<' := by
  intro c member
  obtain ⟨d, -, inside⟩ := List.mem_flatMap.mp member
  rcases escapeTextChar_cases d with ⟨-, code⟩ | ⟨-, code⟩ | ⟨-, code⟩ | ⟨⟨-, lt, -⟩, code⟩
  all_goals
    rw [code] at inside
    grind

theorem ne_of_mem_writtenValue {s : String} : ∀ c ∈ writtenValue s, c ≠ '\x22' := by
  intro c member
  obtain ⟨d, -, inside⟩ := List.mem_flatMap.mp member
  rcases escapeValueChar_cases d with ⟨-, code⟩ | ⟨-, code⟩ | ⟨⟨-, quote⟩, code⟩
  all_goals
    rw [code] at inside
    grind

theorem toList_printAttribute (name value : String) :
    (printAttribute name value).toList = name.toList ++ writtenSign value := by
  unfold printAttribute writtenSign
  by_cases empty : value = ""
  · simp [empty]
  · simp [empty, escapeValue, writtenValue]

theorem toList_printAttributes (a : Attributes) :
    (printAttributes a).toList = writtenAttributes a.entries := by
  unfold printAttributes
  induction a.entries with
  | nil => rfl
  | cons entry rest ih =>
    obtain ⟨name, value⟩ := entry
    simp [String.join_cons, toList_printAttribute, writtenAttributes, ih]

theorem Head.toList_opening (h : Head κ) :
    h.opening.toList = '<' :: (h.tag.toList ++ (writtenAttributes h.attributes.entries ++ ['>'])) := by
  simp [opening, toList_printAttributes]

theorem Head.toList_closing (h : Head κ) :
    h.closing.toList = '<' :: '/' :: (h.tag.toList ++ ['>']) := by
  simp [closing]

theorem Content.toList_print (c : Content κ) : c.print.toList = c.written := by
  induction c with
  | nil => rfl
  | text run rest ih => simp [print, written, writtenText, escapeText, ih]
  | element head inner rest ih₁ ih₂ =>
    cases void : isVoid head.tag with
    | true => simp [print, written, void, Head.toList_opening, ih₂]
    | false => simp [print, written, void, Head.toList_opening, Head.toList_closing, ih₁, ih₂]

theorem Content.written_element_append (head : Head κ) (inner rest : Content κ) (r : List Char) :
    (element head inner rest).written ++ r =
      '<' :: (head.tag.toList ++ (writtenAttributes head.attributes.entries ++ '>' ::
        if isVoid head.tag then rest.written ++ r
        else inner.written ++ '<' :: '/' :: (head.tag.toList ++ '>' :: (rest.written ++ r)))) := by
  cases void : isVoid head.tag with
  | true => simp [written, void]
  | false => simp [written, void]

/-- An element is printed as a content that has nothing else. -/
theorem Element.toList_print (e : Element κ) :
    e.print.toList = (Content.element e.head e.content .nil).written := by
  rw [← Content.toList_print]
  simp [print, Content.print]

/-- The content without the identity of its elements. -/
def Content.unkeyed (c : Content κ) : Content Unit := c.mapHeads (·.withKey ())

def Element.unkeyed (e : Element κ) : Element Unit := e.mapHeads (·.withKey ())

theorem Content.print_mapHeads_withKey (key : μ) (c : Content κ) :
    (c.mapHeads (·.withKey key)).print = c.print := by
  induction c with
  | nil => rfl
  | text run rest ih => simp [mapHeads, print, ih]
  | element head inner rest ih₁ ih₂ =>
    simp only [mapHeads, print, ih₁, ih₂]
    rfl

theorem Element.print_unkeyed (e : Element κ) : e.unkeyed.print = e.print := by
  simp only [unkeyed, mapHeads, print, Content.print_mapHeads_withKey]
  rfl

end Clipping.Markup

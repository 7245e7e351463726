import Clipping.Markup.Token.Tag

/-! The steps of a scan. Each step reads one construct: a run of text, a reference, a tag,
a comment or a declaration. A construct without its end halts the scan once; after that
it counts as text. Every step takes at least one character. -/
namespace Clipping.Markup

open Text

namespace Token

/-- What a scan does at one place: it goes on behind some tokens, in the given mode, or
halts. The mode names the element whose raw content is scanned. -/
inductive Step where
  | advance (tokens : List Token) (raw : Option String) (rest : List Char)
  | halt (tokens : List Token) (rest : List Char)
  | reject (cause : Rejection)

namespace Step

/-- Tags whose content is raw. -/
def rawTags : List String := ["script", "style"]

/-- Two characters agree in any case; a few letters have a third form. -/
def agrees (c own : Char) : Bool :=
  c.toLower == own || (own == 's' && c.toNat == 0x17F) ||
    (own == 'i' && (c.toNat == 0x130 || c.toNat == 0x131))

def afterName? : List Char → List Char → Option (List Char)
  | [], s => some s
  | _ :: _, [] => none
  | own :: name, c :: s => if agrees c own then afterName? name s else none

def endsRaw (name : List Char) (s : List Char) : Bool :=
  match (after? ['<', '/'] s).bind fun rest => afterName? name (dropBlank rest) with
  | some rest => (dropBlank rest).head? == some '>'
  | none => false

/-- Raw content up to the first end tag of the name. -/
def rawContent? (name : List Char) : List Char → Option (List Char × List Char)
  | [] => none
  | c :: s =>
    if endsRaw name (c :: s) then some ([], c :: s)
    else (rawContent? name s).map fun (run, rest) => (c :: run, rest)

def textIfAny (run : List Char) : List Token := if run.isEmpty then [] else [.text run]

/-- Within raw content. An end tag counts if it has the name in plain letters. -/
def inRaw (name : String) (s : List Char) : Step :=
  match rawContent? name.toList s with
  | none => .halt [] s
  | some (run, rest) =>
    match Tag.closing? (rest.drop 2) with
    | some (_, behind) => .advance (textIfAny run ++ [.finish name]) none behind
    | none =>
      match through? '>' rest with
      | some (skipped, behind) => .advance (textIfAny run ++ [.text skipped]) (some name) behind
      | none => .halt [] s

/-- A construct after `<` without its end. -/
def unfinished (again : Bool) (s : List Char) : Step :=
  if again then
    match through? '>' s with
    | some (run, rest) => .advance [.text ('<' :: run)] none rest
    | none =>
      if s.contains '<' then
        .advance [.text ('<' :: s.takeWhile (· != '<'))] none (s.dropWhile (· != '<'))
      else .advance [.text ['<']] none s
  else .halt [] ('<' :: s)

/-- What follows a comment, instruction or declaration; without its end it is unfinished. -/
def bounded (again : Bool) (s : List Char) (rest : Option (List Char)) : Step :=
  match rest with
  | some rest => .advance [.boundary] none rest
  | none => unfinished again s

def endsComment (s : List Char) : Option (List Char) :=
  (after? ['-', '-'] s).bind fun rest => after? ['>'] (dropBlank rest)

def endsCondition (s : List Char) : Option (List Char) :=
  (after? [']'] s).bind fun rest => after? ['>'] (dropBlank rest)

def endsSection (s : List Char) : Option (List Char) :=
  (after? [']'] s).bind fun rest => endsCondition (dropBlank rest)

def isSectionChar (c : Char) : Bool := c.isAlphanum || c == '-' || c == '_' || c == '.'

/-- A section after `<![`: its keyword says how it ends. -/
def sectioned (again : Bool) (s : List Char) : Step :=
  match s with
  | [] => unfinished again ['!', '[']
  | c :: rest =>
    if !c.isAlpha then .reject (.unnamedSection (String.ofList (('<' :: '!' :: '[' :: s).take 20)))
    else
      let name := c :: rest.takeWhile isSectionChar
      let after := rest.dropWhile isSectionChar
      let keyword := lower (String.ofList name)
      if (dropBlank after).isEmpty then unfinished again ('!' :: '[' :: s)
      else if ["temp", "cdata", "ignore", "include", "rcdata"].contains keyword then
        bounded again ('!' :: '[' :: s) (afterFirst? endsSection s)
      else if ["if", "else", "endif"].contains keyword then
        bounded again ('!' :: '[' :: s) (afterFirst? endsCondition s)
      else .reject (.unknownSection (String.ofList (name ++ after.takeWhile isBlank)))

def startTag (again : Bool) (s : List Char) : Step :=
  match Tag.opening s with
  | .tag name attributes closed rest =>
    .advance [.start name attributes closed]
      (if !closed && rawTags.contains name then some name else none) rest
  | .unfinished => unfinished again s
  | .none rest => .advance [.text ('<' :: s.take (s.length - rest.length))] none rest

/-- An end tag after `</`. Whatever stands behind its name is passed over, and one that
starts with no letter is a comment. -/
def endTag (again : Bool) (s : List Char) : Step :=
  match through? '>' s with
  | none => unfinished again ('/' :: s)
  | some (skipped, rest) =>
    match Tag.closing? s with
    | some (name, rest) => .advance [.finish name] none rest
    | none =>
      if s.head?.any Char.isAlpha then
        .advance [.finish (lower (String.ofList (s.takeWhile Tag.isNameChar)))] none rest
      else .advance (if skipped = ['>'] then [] else [.boundary]) none rest

/-- After `<`. -/
def markup (again : Bool) (s : List Char) : Step :=
  match s with
  | [] => .halt [] ['<']
  | '/' :: rest => endTag again rest
  | '!' :: '-' :: '-' :: rest => bounded again s (afterFirst? endsComment rest)
  | '!' :: '[' :: rest => sectioned again rest
  | '!' :: rest => bounded again s ((through? '>' rest).map Prod.snd)
  | '?' :: rest => bounded again s ((through? '>' rest).map Prod.snd)
  | c :: rest => if c.isAlpha then startTag again (c :: rest) else .advance [.text ['<']] none s

/-- A semicolon ends a reference; any other character goes on. -/
def skipMark : List Char → List Char
  | ';' :: rest => rest
  | s => s

/-- After `&#`. The number needs a character behind it that is no hexadecimal digit. -/
def numbered (s : List Char) : Step :=
  let found := (Entity.number? s).bind fun (n, count) =>
    match s.drop count with
    | [] => none
    | c :: rest => if isHexadecimal c then none else some (n, skipMark (c :: rest))
  match found with
  | some (n, rest) => .advance [.text [Entity.numbered n]] none rest
  | none => if s.contains ';' then .halt [.text ['&', '#']] s else .halt [] ('&' :: '#' :: s)

def isReferenceChar (c : Char) : Bool := c.isAlphanum || c == '-' || c == '.'

/-- The characters of a name, or else the reference itself without its semicolon. -/
def namedText (name : List Char) : List Char :=
  (Entity.named? (String.ofList name)).getD ('&' :: name)

/-- A name after `&` needs a character behind it; at the end of the markup its last dash
or dot is that character. -/
def named (again : Bool) (s : List Char) : Step :=
  let name := s.takeWhile isReferenceChar
  match s.dropWhile isReferenceChar with
  | c :: rest => .advance [.text (namedText name)] none (skipMark (c :: rest))
  | [] =>
    let back := name.reverse.takeWhile Char.isAlphanum
    if back.length < name.length then
      let shorter := name.take (name.length - (back.length + 1))
      .advance [.text (namedText shorter)] none (name.drop shorter.length)
    else if again && name.length = 1 then .halt [] s
    else .halt [] ('&' :: s)

/-- After `&`. -/
def reference (again : Bool) (s : List Char) : Step :=
  match s with
  | [] => .halt [] ['&']
  | '#' :: rest => numbered rest
  | c :: rest => if c.isAlpha then named again (c :: rest) else .advance [.text ['&']] none (c :: rest)

def isPlain (c : Char) : Bool := c != '<' && c != '&'

/-- One step of the scan; `again` says that the scan has halted before. -/
def next (again : Bool) (raw : Option String) (s : List Char) : Step :=
  match raw with
  | some name => inRaw name s
  | none =>
    match s with
    | [] => .halt [] []
    | c :: rest =>
      if c = '<' then markup again rest
      else if c = '&' then reference again rest
      else .advance [.text (c :: rest.takeWhile isPlain)] none (rest.dropWhile isPlain)

/-- The construct that stands here has a number with too many digits. A number in text needs the
character behind it. -/
def isOverlong (raw : Option String) (s : List Char) : Bool :=
  match raw, s with
  | none, '&' :: '#' :: rest =>
    Entity.isOverlong rest && (rest.dropWhile Char.isDigit).head?.any (!isHexadecimal ·)
  | none, '<' :: c :: rest => c.isAlpha && Tag.opensOverlong (c :: rest)
  | _, _ => false

theorem rawContent?_suffix {name s run rest : List Char} (h : rawContent? name s = some (run, rest)) :
    rest <:+ s ∧ 0 < rest.length := by
  induction s generalizing run with
  | nil => simp [rawContent?] at h
  | cons c s ih =>
    unfold rawContent? at h
    split at h
    · cases h; exact ⟨List.suffix_refl _, by simp⟩
    · obtain ⟨⟨run', rest'⟩, found, same⟩ := Option.map_eq_some_iff.mp h
      cases same
      exact ⟨(ih found).1.trans (List.suffix_cons c s), (ih found).2⟩

theorem inRaw_shorter {name : String} {s rest : List Char} {tokens : List Token} {raw : Option String}
    (h : inRaw name s = .advance tokens raw rest) : rest.length < s.length := by
  unfold inRaw at h
  split at h
  · cases h
  · next run at' content =>
    have ⟨inside, _⟩ := rawContent?_suffix content
    have := inside.length_le
    split at h
    · next closed =>
      cases h
      have := (Tag.closing?_suffix closed).length_le
      rw [List.length_drop] at this
      omega
    · split at h
      · next skipped =>
        cases h
        have := through?_shorter skipped
        omega
      · cases h

theorem unfinished_suffix {again : Bool} {s rest : List Char} {tokens : List Token} {raw : Option String}
    (h : unfinished again s = .advance tokens raw rest) : rest <:+ s := by
  unfold unfinished at h
  split at h
  · split at h
    · next found => cases h; exact through?_suffix found
    · split at h
      · cases h; exact List.dropWhile_suffix _
      · cases h; exact List.suffix_refl _
  · cases h

theorem bounded_suffix {again : Bool} {s rest : List Char} {tokens : List Token} {raw : Option String}
    {found : Option (List Char)} (ends : ∀ behind, found = some behind → behind <:+ s)
    (h : bounded again s found = .advance tokens raw rest) : rest <:+ s := by
  unfold bounded at h
  split at h
  · cases h; exact ends _ rfl
  · exact unfinished_suffix h

theorem endsComment_suffix (s rest : List Char) (h : endsComment s = some rest) : rest <:+ s := by
  obtain ⟨inner, first, last⟩ := Option.bind_eq_some_iff.mp h
  exact ((after?_suffix last).trans (dropBlank_suffix inner)).trans (after?_suffix first)

theorem endsCondition_suffix (s rest : List Char) (h : endsCondition s = some rest) : rest <:+ s := by
  obtain ⟨inner, first, last⟩ := Option.bind_eq_some_iff.mp h
  exact ((after?_suffix last).trans (dropBlank_suffix inner)).trans (after?_suffix first)

theorem endsSection_suffix (s rest : List Char) (h : endsSection s = some rest) : rest <:+ s := by
  obtain ⟨inner, first, last⟩ := Option.bind_eq_some_iff.mp h
  exact ((endsCondition_suffix _ _ last).trans (dropBlank_suffix inner)).trans (after?_suffix first)

theorem sectioned_suffix {again : Bool} {s rest : List Char} {tokens : List Token} {raw : Option String}
    (h : sectioned again s = .advance tokens raw rest) : rest <:+ '!' :: '[' :: s := by
  have inside {behind s : List Char} (h : behind <:+ s) : behind <:+ '!' :: '[' :: s :=
    h.trans ((List.suffix_cons '[' s).trans (List.suffix_cons '!' _))
  unfold sectioned at h
  split at h
  · exact unfinished_suffix h
  · split at h
    · cases h
    · simp only at h
      split at h
      · exact unfinished_suffix h
      · split at h
        · exact bounded_suffix (fun _ found => inside (afterFirst?_suffix endsSection_suffix found)) h
        · split at h
          · exact bounded_suffix (fun _ found => inside (afterFirst?_suffix endsCondition_suffix found)) h
          · cases h

theorem startTag_suffix {again : Bool} {s rest : List Char} {tokens : List Token} {raw : Option String}
    (h : startTag again s = .advance tokens raw rest) : rest <:+ s := by
  unfold startTag at h
  split at h
  · next found => cases h; exact Tag.opening_suffix found
  · exact unfinished_suffix h
  · next found => cases h; exact Tag.opening_none_suffix found

theorem endTag_suffix {again : Bool} {s rest : List Char} {tokens : List Token} {raw : Option String}
    (h : endTag again s = .advance tokens raw rest) : rest <:+ '/' :: s := by
  unfold endTag at h
  split at h
  · exact unfinished_suffix h
  · next skipped =>
    split at h
    · next found => cases h; exact (Tag.closing?_suffix found).trans (List.suffix_cons _ _)
    · split at h <;> cases h <;> exact (through?_suffix skipped).trans (List.suffix_cons _ _)

theorem markup_suffix {again : Bool} {s rest : List Char} {tokens : List Token} {raw : Option String}
    (h : markup again s = .advance tokens raw rest) : rest <:+ s := by
  have past {c : Char} {s behind : List Char} (found : (through? '>' s).map Prod.snd = some behind) :
      behind <:+ c :: s := by
    obtain ⟨⟨run, rest⟩, through, rfl⟩ := Option.map_eq_some_iff.mp found
    exact (through?_suffix through).trans (List.suffix_cons c s)
  unfold markup at h
  split at h
  · cases h
  · exact endTag_suffix h
  · next inner =>
    refine bounded_suffix (fun _ found => ?_) h
    exact (afterFirst?_suffix endsComment_suffix found).trans
      ((List.suffix_cons _ _).trans ((List.suffix_cons _ _).trans (List.suffix_cons _ _)))
  · exact sectioned_suffix h
  · exact bounded_suffix (fun _ found => past found) h
  · exact bounded_suffix (fun _ found => past found) h
  · split at h
    · exact startTag_suffix h
    · cases h; exact List.suffix_refl _

theorem skipMark_suffix (s : List Char) : skipMark s <:+ s := by
  unfold skipMark
  split
  · exact List.suffix_cons _ _
  · exact List.suffix_refl _

theorem numbered_suffix {s rest : List Char} {tokens : List Token} {raw : Option String}
    (h : numbered s = .advance tokens raw rest) : rest <:+ s := by
  unfold numbered at h
  simp only at h
  split at h
  · next n behind found =>
    cases h
    obtain ⟨⟨n', count⟩, _, last⟩ := Option.bind_eq_some_iff.mp found
    simp only at last
    split at last
    · cases last
    · next c rest' same =>
      split at last
      · cases last
      · cases last
        exact (skipMark_suffix _).trans (same ▸ List.drop_suffix count s)
  · split at h <;> cases h

theorem named_suffix {again : Bool} {s rest : List Char} {tokens : List Token} {raw : Option String}
    (h : named again s = .advance tokens raw rest) : rest <:+ s := by
  have parts : s.takeWhile isReferenceChar ++ s.dropWhile isReferenceChar = s :=
    List.takeWhile_append_dropWhile
  unfold named at h
  simp only at h
  split at h
  · next c rest' same =>
    cases h
    exact (skipMark_suffix _).trans (same ▸ List.dropWhile_suffix _)
  · next same =>
    rw [same, List.append_nil] at parts
    split at h
    · cases h
      rw [parts]
      exact List.drop_suffix _ _
    · split at h <;> cases h

theorem reference_suffix {again : Bool} {s rest : List Char} {tokens : List Token} {raw : Option String}
    (h : reference again s = .advance tokens raw rest) : rest <:+ s := by
  unfold reference at h
  split at h
  · cases h
  · exact (numbered_suffix h).trans (List.suffix_cons _ _)
  · split at h
    · exact named_suffix h
    · cases h; exact List.suffix_refl _

/-- Every step takes a character. -/
theorem next_shorter {again : Bool} {raw mode : Option String} {s rest : List Char} {tokens : List Token}
    (h : next again raw s = .advance tokens mode rest) : rest.length < s.length := by
  unfold next at h
  split at h
  · exact inRaw_shorter h
  · split at h
    · cases h
    · next c inner =>
      refine Nat.lt_succ_of_le (List.IsSuffix.length_le ?_)
      split at h
      · exact markup_suffix h
      · split at h
        · exact reference_suffix h
        · cases h; exact List.dropWhile_suffix _

end Step

end Token

end Clipping.Markup

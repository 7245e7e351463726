import Clipping.Markup.Entity.Reference
import Clipping.Markup.Token.Basic
import Clipping.Text.Search

/-! Reading tags. A start tag is read leniently: attributes may stand without a gap after
a quoted value, and a quote without its partner belongs to a name. -/
namespace Clipping.Markup.Tag

open Text

def isNameChar (c : Char) : Bool :=
  !(['\t', '\n', '\r', Char.ofNat 12, ' ', '/', '>', Char.ofNat 0].contains c)

def isAttributeChar (c : Char) : Bool := !isBlank c && c != '/' && c != '=' && c != '>'

def isQuote (c : Char) : Bool := c == '\x22' || c == '\x27'

/-- Passes over blanks, and slashes that do not end the tag. -/
def dropGap : List Char → List Char
  | [] => []
  | c :: s => if isBlank c || (c == '/' && s.head? != some '>') then dropGap s else c :: s

/-- An attribute as it is written, and whether its last character ends a quotation. -/
structure Written where
  name : List Char
  value : List Char
  quoted : Bool

/-- A value without quotes. -/
def bareValue (s : List Char) : List Char × List Char :=
  let isValueChar (c : Char) : Bool := c != '>' && !isBlank c
  (s.takeWhile isValueChar, s.dropWhile isValueChar)

/-- Equals signs and the value after them; also whether it was quoted, and the rest.
Before a quote without its partner, blanks make the value empty, and of several signs the
last one starts the value. -/
def assigned? (s : List Char) : Option (List Char × Bool × List Char) :=
  let signs := dropBlank s
  let after := signs.dropWhile (· == '=')
  let bare (s : List Char) := some ((bareValue s).1, false, (bareValue s).2)
  if signs.length = after.length then none
  else match dropBlank after with
    | [] => bare []
    | quote :: inner =>
      if !isQuote quote then bare (quote :: inner)
      else match through? quote inner with
        | some (quotation, rest) => some (quotation.dropLast, true, rest)
        | none =>
          if inner.length + 1 < after.length then some ([], false, after)
          else if signs.length = after.length + 1 then none
          else some ('=' :: (bareValue after).1, false, (bareValue after).2)

def attribute? : List Char → Option (Written × List Char)
  | [] => none
  | c :: s =>
    if isBlank c || c == '/' || c == '>' then none
    else
      let name := c :: s.takeWhile isAttributeChar
      let after := s.dropWhile isAttributeChar
      match assigned? after with
      | some (value, quoted, rest) => some (⟨name, value, quoted⟩, rest)
      | none => some (⟨name, [], (name.getLast?).any isQuote⟩, after)

theorem dropGap_suffix (s : List Char) : dropGap s <:+ s := by
  induction s with
  | nil => simp [dropGap]
  | cons c s ih =>
    unfold dropGap
    split
    · exact ih.trans (List.suffix_cons c s)
    · exact List.suffix_refl _

theorem bareValue_suffix (s : List Char) : (bareValue s).2 <:+ s := List.dropWhile_suffix _

theorem assigned?_suffix {s value rest : List Char} {quoted : Bool}
    (h : assigned? s = some (value, quoted, rest)) : rest <:+ s := by
  have after : (dropBlank s).dropWhile (· == '=') <:+ s :=
    (List.dropWhile_suffix _).trans (dropBlank_suffix s)
  have inside : dropBlank ((dropBlank s).dropWhile (· == '=')) <:+ s := (dropBlank_suffix _).trans after
  unfold assigned? at h
  simp only at h
  split at h
  · cases h
  · split at h
    · cases h; exact List.nil_suffix
    · next quote inner found =>
      rw [found] at inside
      split at h
      · cases h; exact (bareValue_suffix _).trans inside
      · split at h
        · next closed =>
          cases h
          exact ((through?_suffix closed).trans (List.suffix_cons quote inner)).trans inside
        · split at h
          · cases h; exact after
          · split at h
            · cases h
            · cases h; exact (bareValue_suffix _).trans after

theorem attribute?_suffix {c : Char} {s rest : List Char} {a : Written}
    (h : attribute? (c :: s) = some (a, rest)) : rest <:+ s := by
  have names : s.dropWhile isAttributeChar <:+ s := List.dropWhile_suffix _
  by_cases ends : (isBlank c || c == '/' || c == '>') = true
  · simp [attribute?, ends] at h
  · cases value : assigned? (s.dropWhile isAttributeChar) with
    | none =>
      simp only [attribute?, ends, value, Bool.false_eq_true, if_false, Option.some.injEq,
        Prod.mk.injEq] at h
      exact h.2 ▸ names
    | some found =>
      simp only [attribute?, ends, value, Bool.false_eq_true, if_false, Option.some.injEq,
        Prod.mk.injEq] at h
      exact h.2 ▸ (assigned?_suffix value).trans names

theorem attribute?_shorter {s rest : List Char} {a : Written} (h : attribute? s = some (a, rest)) :
    rest.length < s.length := by
  cases s with
  | nil => simp [attribute?] at h
  | cons c s => exact Nat.lt_succ_of_le (attribute?_suffix h).length_le

/-- The attributes up to the first character that starts none, with names in lower case
and values without references. An attribute starts after a gap or a quote. -/
def attributes (ready : Bool) (s : List Char) : List (String × String) × List Char :=
  if ready then
    match _found : attribute? s with
    | none => ([], s)
    | some (a, rest) =>
      let gap := dropGap rest
      let more := attributes (a.quoted || gap.length < rest.length) gap
      ((lower (String.ofList a.name), String.ofList (Entity.unescape a.value)) :: more.1, more.2)
  else ([], s)
termination_by s.length
decreasing_by
  have := attribute?_shorter _found
  have := (dropGap_suffix rest).length_le
  omega

theorem attributes_suffix (ready : Bool) (s : List Char) : (attributes ready s).2 <:+ s := by
  fun_induction attributes ready s with
  | case1 => simp
  | case2 s a rest found gap more ih =>
    cases s with
    | nil => simp [attribute?] at found
    | cons c s =>
      exact ih.trans ((dropGap_suffix rest).trans
        ((attribute?_suffix found).trans (List.suffix_cons c s)))
  | case3 => simp

/-- One of the attributes has a number with too many digits in its value. -/
def hasOverlong (ready : Bool) (s : List Char) : Bool :=
  if ready then
    match _found : attribute? s with
    | none => false
    | some (a, rest) =>
      let gap := dropGap rest
      Entity.hasOverlong a.value || hasOverlong (a.quoted || gap.length < rest.length) gap
  else false
termination_by s.length
decreasing_by
  have := attribute?_shorter _found
  have := (dropGap_suffix rest).length_le
  omega

/-- What stands where a start tag may be. -/
inductive Opening where
  | tag (name : String) (attributes : Attributes) (closed : Bool) (rest : List Char)
  | unfinished
  /-- What was read is text, and the rest goes on. -/
  | none (rest : List Char)

def opening (s : List Char) : Opening :=
  let name := s.takeWhile isNameChar
  let after := s.dropWhile isNameChar
  let gap := dropGap after
  let ready := gap.length < after.length || (name.getLast?).any fun c => isQuote c || isBlank c
  let (found, rest) := attributes ready gap
  let tag := Opening.tag (lower (String.ofList name)) (.ofList found)
  match rest with
  | [] => .unfinished
  | '>' :: rest => tag false rest
  | '/' :: '>' :: rest => tag true rest
  | c :: rest => if c.isAlpha || c == '=' || c == '/' then .unfinished else .none (c :: rest)

/-- Attributes are read here, of a tag or of what is text after all, and one has such a number. -/
def opensOverlong (s : List Char) : Bool :=
  match opening s with
  | .unfinished => false
  | _ =>
    let after := s.dropWhile isNameChar
    let gap := dropGap after
    let blankEnd := ((s.takeWhile isNameChar).getLast?).any fun c => isQuote c || isBlank c
    hasOverlong (gap.length < after.length || blankEnd) gap

def isEndNameChar (c : Char) : Bool := c.isAlphanum || c == '-' || c == '.' || c == ':' || c == '_'

/-- The name of an end tag after `</`, if nothing but blanks surrounds it. -/
def closing? (s : List Char) : Option (String × List Char) :=
  match dropBlank s with
  | [] => none
  | c :: s =>
    if c.isAlpha then
      match dropBlank (s.dropWhile isEndNameChar) with
      | '>' :: rest => some (lower (String.ofList (c :: s.takeWhile isEndNameChar)), rest)
      | _ => none
    else none

theorem opening_suffix {s rest : List Char} {name : String} {found : Attributes} {closed : Bool}
    (h : opening s = .tag name found closed rest) : rest <:+ s := by
  have whole := (attributes_suffix
    ((dropGap (s.dropWhile isNameChar)).length < (s.dropWhile isNameChar).length ||
      ((s.takeWhile isNameChar).getLast?).any fun c => isQuote c || isBlank c)
    (dropGap (s.dropWhile isNameChar))).trans ((dropGap_suffix _).trans (List.dropWhile_suffix _))
  unfold opening at h
  simp only at h
  split at h
  · cases h
  · next same => cases h; exact (List.suffix_cons _ _).trans (same ▸ whole)
  · next same =>
    cases h
    exact ((List.suffix_cons _ _).trans (List.suffix_cons _ _)).trans (same ▸ whole)
  · split at h <;> cases h

theorem opening_none_suffix {s rest : List Char} (h : opening s = .none rest) : rest <:+ s := by
  have whole := (attributes_suffix
    ((dropGap (s.dropWhile isNameChar)).length < (s.dropWhile isNameChar).length ||
      ((s.takeWhile isNameChar).getLast?).any fun c => isQuote c || isBlank c)
    (dropGap (s.dropWhile isNameChar))).trans ((dropGap_suffix _).trans (List.dropWhile_suffix _))
  unfold opening at h
  simp only at h
  split at h
  · cases h
  · cases h
  · cases h
  · next same =>
    split at h
    · cases h
    · cases h; exact same ▸ whole

theorem closing?_suffix {s rest : List Char} {name : String} (h : closing? s = some (name, rest)) :
    rest <:+ s := by
  have start := dropBlank_suffix s
  unfold closing? at h
  split at h
  · cases h
  · next c s' same =>
    rw [same] at start
    split at h
    · split at h
      · next rest' found =>
        cases h
        exact ((List.suffix_cons _ _).trans (found ▸ (dropBlank_suffix _).trans
          (List.dropWhile_suffix _))).trans ((List.suffix_cons c s').trans start)
      · cases h
    · cases h

end Clipping.Markup.Tag

import Clipping.Markup.Token.Scan
import Clipping.Proofs.Assoc.Entries
import Clipping.Proofs.Text.Lowered
import Mathlib.Data.List.TakeWhile

/-! What a scan can give. Names are in lower case and have none of the characters that end
them, and raw content is only text up to the end tag of its element. -/
namespace Clipping

theorem Assoc.forall_name_ofList {α : Type} {P : String → Prop} {entries : List (String × α)}
    (all : ∀ entry ∈ entries, P entry.1) : ∀ entry ∈ (Assoc.ofList entries).entries, P entry.1 := by
  have folded (m : Assoc α) (own : ∀ name ∈ m.keys, P name) :
      ∀ name ∈ (entries.foldl (fun m entry => m.set entry.1 entry.2) m).keys, P name := by
    induction entries generalizing m with
    | nil => exact own
    | cons entry rest ih =>
      obtain ⟨first, others⟩ := List.forall_mem_cons.mp all
      refine ih others (m.set entry.1 entry.2) fun name member => ?_
      rw [Assoc.keys_set] at member
      split at member
      · exact own name member
      · rcases List.mem_append.mp member with old | new
        · exact own name old
        · exact List.mem_singleton.mp new ▸ first
  exact fun entry member =>
    folded .empty (by simp [Assoc.keys]) entry.1 (List.mem_map_of_mem member)

namespace Markup

open Text

structure IsTag (name : String) : Prop where
  lowered : lower name = name
  letter : name.toList.head?.any Char.isAlpha = true
  inside : ∀ c ∈ name.toList, Tag.isNameChar c = true

instance (name : String) : Decidable (IsTag name) :=
  decidable_of_iff (lower name = name ∧ name.toList.head?.any Char.isAlpha = true ∧
      name.toList.all Tag.isNameChar = true)
    ⟨fun tag => ⟨tag.1, tag.2.1, List.all_eq_true.mp tag.2.2⟩,
      fun tag => ⟨tag.lowered, tag.letter, List.all_eq_true.mpr tag.inside⟩⟩

/-- The name of an attribute; its first character may be any that starts one. -/
structure IsAttributeName (name : String) : Prop where
  lowered : lower name = name
  first : ∃ c s, name.toList = c :: s ∧ (isBlank c || c == '/' || c == '>') = false ∧
    ∀ d ∈ s, Tag.isAttributeChar d = true

structure Head.IsScanned {κ : Type} (h : Head κ) : Prop where
  tag : IsTag h.tag
  names : ∀ entry ∈ h.attributes.entries, IsAttributeName entry.1

namespace Tag

theorem isUnlettered_of_not_isNameChar {c : Char} (h : isNameChar c = false) :
    isUnlettered c = true := by
  simp only [isNameChar, Bool.not_eq_false', List.contains_iff_mem, List.mem_cons,
    List.not_mem_nil, or_false] at h
  rcases h with rfl | rfl | rfl | rfl | rfl | rfl | rfl | rfl <;> rfl

theorem isUnlettered_of_not_isAttributeChar {c : Char} (h : isAttributeChar c = false) :
    isUnlettered c = true := by
  simp only [isAttributeChar, Bool.and_eq_false_iff, Bool.not_eq_false', bne_eq_false_iff_eq] at h
  rcases h with ((blank | rfl) | rfl) | rfl
  · simp [isUnlettered, blank]
  all_goals rfl

theorem isNameChar_of_isAlpha {c : Char} (letter : c.isAlpha = true) : isNameChar c = true := by
  refine Bool.not_eq_false _ ▸ fun ends => ?_
  simp only [isNameChar, Bool.not_eq_false', List.contains_iff_mem, List.mem_cons,
    List.not_mem_nil, or_false] at ends
  rcases ends with rfl | rfl | rfl | rfl | rfl | rfl | rfl | rfl <;> cases letter

theorem isAlpha_iff {c : Char} :
    c.isAlpha = true ↔ (0x41 ≤ c.toNat ∧ c.toNat ≤ 0x5A) ∨ (0x61 ≤ c.toNat ∧ c.toNat ≤ 0x7A) := by
  have upper : c.isUpper = decide (0x41 ≤ c.val ∧ c.val ≤ 0x5A) := rfl
  have lower : c.isLower = (decide (0x61 ≤ c.val) && decide (c.val ≤ 0x7A)) := rfl
  have either : c.isAlpha = (c.isUpper || c.isLower) := rfl
  simp only [either, upper, lower, Bool.or_eq_true, Bool.and_eq_true, decide_eq_true_eq,
    UInt32.le_iff_toNat_le]
  rfl

theorem isAlpha_toLower {c : Char} (letter : c.isAlpha = true) : c.toLower.isAlpha = true := by
  rw [isAlpha_iff] at letter ⊢
  rw [toNat_toLower]
  split <;> omega

theorem isTag_lower {name : List Char} (letter : name.head?.any Char.isAlpha = true)
    (inside : ∀ c ∈ name, isNameChar c = true) : IsTag (lower (String.ofList name)) where
  lowered := lower_lower _
  letter := by
    cases name with
    | nil => simp at letter
    | cons c s =>
      obtain ⟨d, low, parts, -, -, ascii⟩ := lowerAfter_cons [] c s
      have letter : c.isAlpha = true := by simpa using letter
      have small := ascii (by rw [isAlpha_iff] at letter; omega)
      simp [lower, parts, small, isAlpha_toLower letter]
  inside := by
    intro d member
    simp only [lower, String.toList_ofList] at member
    cases name : isNameChar d with
    | true => rfl
    | false =>
      have own := inside d (mem_of_mem_lowerAfter member (isUnlettered_of_not_isNameChar name))
      rw [own] at name
      cases name

theorem isAttributeName_lower {c : Char} {s : List Char}
    (first : (isBlank c || c == '/' || c == '>') = false)
    (inside : ∀ d ∈ s, isAttributeChar d = true) :
    IsAttributeName (lower (String.ofList (c :: s))) where
  lowered := lower_lower _
  first := by
    obtain ⟨d, low, parts, own, letters, -⟩ := lowerAfter_cons [] c s
    refine ⟨d, low ++ lowerAfter [c] s, by simp [lower, parts], ?_, fun e member => ?_⟩
    · cases ends : isBlank d || d == '/' || d == '>' with
      | false => rfl
      | true =>
        have plain : isUnlettered d = true := by
          simp only [Bool.or_eq_true, beq_iff_eq] at ends
          rcases ends with (blank | rfl) | rfl
          · simp [isUnlettered, blank]
          all_goals rfl
        rw [own plain, first] at ends
        cases ends
    · cases other : isAttributeChar e with
      | true => rfl
      | false =>
        have plain := isUnlettered_of_not_isAttributeChar other
        rcases List.mem_append.mp member with inLow | later
        · rw [letters e inLow] at plain
          cases plain
        · rw [inside e (mem_of_mem_lowerAfter later plain)] at other
          cases other

theorem attribute?_name {s rest : List Char} {a : Written} (h : attribute? s = some (a, rest)) :
    ∃ c name, a.name = c :: name ∧ (isBlank c || c == '/' || c == '>') = false ∧
      ∀ d ∈ name, isAttributeChar d = true := by
  cases s with
  | nil => simp [attribute?] at h
  | cons c s =>
    cases ends : isBlank c || c == '/' || c == '>' with
    | true => simp [attribute?, ends] at h
    | false =>
      refine ⟨c, s.takeWhile isAttributeChar, ?_, ends, fun d => List.mem_takeWhile_imp⟩
      simp only [attribute?, ends, Bool.false_eq_true, if_false] at h
      split at h
      all_goals
        obtain ⟨rfl, -⟩ := Prod.mk.inj (Option.some.inj h)
        rfl

theorem isAttributeName_attributes (ready : Bool) (s : List Char) :
    ∀ entry ∈ (attributes ready s).1, IsAttributeName entry.1 := by
  fun_induction attributes ready s with
  | case1 => simp
  | case2 s a rest found gap more ih =>
    obtain ⟨c, name, written, first, inside⟩ := attribute?_name found
    rintro entry (_ | ⟨_, later⟩)
    · rw [written]
      exact isAttributeName_lower first inside
    · exact ih entry later
  | case3 => simp

theorem opening_isScanned {s rest : List Char} {name : String} {found : Attributes} {closed : Bool}
    (letter : s.head?.any Char.isAlpha = true) (h : opening s = .tag name found closed rest) :
    (Head.mk () name found).IsScanned := by
  have tag : IsTag (lower (String.ofList (s.takeWhile isNameChar))) := by
    refine isTag_lower ?_ fun c member => List.mem_takeWhile_imp member
    cases s with
    | nil => simp at letter
    | cons c s =>
      have letter : c.isAlpha = true := by simpa using letter
      simp [isNameChar_of_isAlpha letter, letter]
  have names := Assoc.forall_name_ofList (isAttributeName_attributes
    ((dropGap (s.dropWhile isNameChar)).length < (s.dropWhile isNameChar).length ||
      ((s.takeWhile isNameChar).getLast?).any fun c => isQuote c || isBlank c)
    (dropGap (s.dropWhile isNameChar)))
  unfold opening at h
  simp only at h
  split at h
  · cases h
  · cases h; exact ⟨tag, names⟩
  · cases h; exact ⟨tag, names⟩
  · split at h <;> cases h

end Tag

namespace Token

/-- Tokens that can follow in a mode. In raw content text stands until its end tag. -/
inductive Follow : Option String → List Token → Prop where
  | nil {raw} : Follow raw []
  | text {raw run rest} : Follow raw rest → Follow raw (.text run :: rest)
  | boundary {rest} : Follow none rest → Follow none (.boundary :: rest)
  | finish {tag rest} : Follow none rest → Follow none (.finish tag :: rest)
  | finishRaw {tag rest} : Follow none rest → Follow (some tag) (.finish tag :: rest)
  | start {tag attributes closed rest} : (Head.mk () tag attributes).IsScanned →
      Follow (if !closed && Step.rawTags.contains tag then some tag else none) rest →
      Follow none (.start tag attributes closed :: rest)

namespace Step

/-- What the step gives can stand before whatever can follow in the mode that it leaves. -/
def Leads (raw : Option String) : Step → Prop
  | advance tokens mode _ => ∀ more, Follow mode more → Follow raw (tokens ++ more)
  | halt tokens _ => ∀ more, Follow raw more → Follow raw (tokens ++ more)
  | reject _ => True

theorem leads_unfinished (again : Bool) (s : List Char) : (unfinished again s).Leads none := by
  unfold unfinished
  repeat' split
  all_goals first | exact fun _ follow => .text follow | exact fun _ follow => follow

theorem leads_bounded (again : Bool) (s : List Char) (rest : Option (List Char)) :
    (bounded again s rest).Leads none := by
  unfold bounded
  split
  · exact fun _ follow => .boundary follow
  · exact leads_unfinished again s

theorem leads_sectioned (again : Bool) (s : List Char) : (sectioned again s).Leads none := by
  unfold sectioned
  dsimp only
  repeat' split
  all_goals first
    | exact leads_unfinished _ _
    | exact leads_bounded _ _ _
    | trivial

theorem leads_startTag (again : Bool) {s : List Char} (letter : s.head?.any Char.isAlpha = true) :
    (startTag again s).Leads none := by
  unfold startTag
  split
  next found => exact fun _ follow => .start (Tag.opening_isScanned letter found) follow
  next => exact leads_unfinished again s
  next => exact fun _ follow => .text follow

theorem leads_endTag (again : Bool) (s : List Char) : (endTag again s).Leads none := by
  unfold endTag
  repeat' split
  all_goals first
    | exact leads_unfinished _ _
    | exact fun _ follow => .finish follow
    | exact fun _ follow => .boundary follow
    | exact fun _ follow => follow

theorem leads_markup (again : Bool) (s : List Char) : (markup again s).Leads none := by
  unfold markup
  split
  · exact fun _ follow => follow
  · exact leads_endTag again _
  · exact leads_bounded again _ _
  · exact leads_sectioned again _
  · exact leads_bounded again _ _
  · exact leads_bounded again _ _
  · split
    next letter => exact leads_startTag again (by simpa using letter)
    next => exact fun _ follow => .text follow

theorem leads_numbered (s : List Char) : (numbered s).Leads none := by
  unfold numbered
  dsimp only
  repeat' split
  all_goals first | exact fun _ follow => .text follow | exact fun _ follow => follow

theorem leads_named (again : Bool) (s : List Char) : (named again s).Leads none := by
  unfold named
  dsimp only
  repeat' split
  all_goals first | exact fun _ follow => .text follow | exact fun _ follow => follow

theorem leads_reference (again : Bool) (s : List Char) : (reference again s).Leads none := by
  unfold reference
  split
  · exact fun _ follow => follow
  · exact leads_numbered _
  · split
    · exact leads_named again _
    · exact fun _ follow => .text follow

theorem follow_textIfAny {raw : Option String} {more : List Token} (run : List Char)
    (follow : Follow raw more) : Follow raw (textIfAny run ++ more) := by
  unfold textIfAny
  split
  · exact follow
  · exact .text follow

theorem leads_inRaw (name : String) (s : List Char) : (inRaw name s).Leads (some name) := by
  unfold inRaw
  split
  · exact fun _ follow => follow
  next run rest _ =>
    split
    next =>
      intro more follow
      rw [List.append_assoc]
      exact follow_textIfAny run (.finishRaw follow)
    next =>
      split
      next =>
        intro more follow
        rw [List.append_assoc]
        exact follow_textIfAny run (.text follow)
      next => exact fun _ follow => follow

theorem leads_next (again : Bool) (raw : Option String) (s : List Char) :
    (next again raw s).Leads raw := by
  unfold next
  split
  · exact leads_inRaw _ s
  · split
    · exact fun _ follow => follow
    · split
      · exact leads_markup again _
      · split
        · exact leads_reference again _
        · exact fun _ follow => .text follow

end Step

theorem follow_map {raw mode : Option String} {found tokens : List Token}
    {scanned : Except Rejection (List Token)}
    (leads : ∀ more, Follow mode more → Follow raw (found ++ more))
    (rest : ∀ {more}, scanned = .ok more → Follow mode more)
    (h : scanned.map (found ++ ·) = .ok tokens) : Follow raw tokens := by
  cases scanned with
  | error cause => cases h
  | ok more =>
    cases h
    exact leads more (rest rfl)

/-- The tokens of markup follow in the mode in which it is scanned. -/
theorem follow_scanFrom {again : Bool} {raw : Option String} {s : List Char} {tokens : List Token}
    (h : scanFrom again raw s = .ok tokens) : Follow raw tokens := by
  fun_induction scanFrom again raw s generalizing tokens with
  | case1 again raw s found mode rest step ih =>
    have leads := Step.leads_next again raw s
    rw [step] at leads
    exact follow_map leads ih h
  | case2 raw s found rest step =>
    have leads := Step.leads_next true raw s
    rw [step] at leads
    cases h
    refine leads _ ?_
    split
    · exact .nil
    · exact List.append_nil (Step.textIfAny rest) ▸ Step.follow_textIfAny rest .nil
  | case3 again raw s found rest step _ ih =>
    have leads := Step.leads_next again raw s
    rw [step] at leads
    exact follow_map leads ih h
  | case4 => cases h

end Token

end Markup

end Clipping

import Clipping.Proofs.Color.Alpha

/-! The grammar of colours that name their channels. A colour is read exactly if its trimmed text is
spelled so, and then by its channels, each capped, and by its alpha. -/
namespace Clipping.Color

open Text

/-- What separates two channels: blanks, or a comma and the blanks around it. -/
inductive Separates : List Char → Prop where
  | blanks {s : List Char} (written : s ≠ []) (blank : IsBlankText s) : Separates s
  | comma (before behind : Blanks) : Separates (before ++ ',' :: behind)

/-- One to three digits. -/
def IsChannel (s : List Char) : Prop := (1 ≤ s.length ∧ s.length ≤ 3) ∧ ∀ c ∈ s, isDecimal c = true

def IsName (s : List Char) : Prop :=
  s.map Char.toLower = ['r', 'g', 'b'] ∨ s.map Char.toLower = ['r', 'g', 'b', 'a']

structure Alpha.Spelling where
  mark : {c : Char // c = ',' ∨ c = '/'}
  before : Blanks
  figures : Decimal.Figures
  percent : Bool
  behind : Blanks

def Alpha.Spelling.text (a : Alpha.Spelling) : List Char :=
  a.mark :: (a.before ++ (a.figures.text ++ ((if a.percent then ['%'] else []) ++ a.behind)))

structure Rgb.Spelling where
  name : {s : List Char // IsName s}
  before : Blanks
  red : {s : List Char // IsChannel s}
  first : {s : List Char // Separates s}
  green : {s : List Char // IsChannel s}
  second : {s : List Char // Separates s}
  blue : {s : List Char // IsChannel s}
  behind : Blanks
  alpha : Option Alpha.Spelling

def Rgb.Spelling.ending (c : Rgb.Spelling) : List Char :=
  c.behind ++ ((c.alpha.map Alpha.Spelling.text).getD [] ++ [')'])

def Rgb.Spelling.channels (c : Rgb.Spelling) : List Nat :=
  [min (decimalNat c.red) 255, min (decimalNat c.green) 255, min (decimalNat c.blue) 255]

def Rgb.Spelling.text (c : Rgb.Spelling) : List Char :=
  c.name ++ '(' :: (c.before ++ (c.red ++ (c.first ++ (c.green ++ (c.second ++ (c.blue ++ c.ending))))))

namespace Rgb

variable {s rest : List Char}

theorem opening?_eq_some : opening? s = some rest ↔ ∃ name, IsName name ∧ s = name ++ '(' :: rest := by
  constructor
  · intro found
    unfold opening? at found
    split at found
    · next r g b after =>
      split at found
      · next named =>
        split at found
        · obtain rfl := Option.some.inj found
          exact ⟨[r, g, b], .inl (by simpa using named), rfl⟩
        · next a after _ =>
          split at found
          · next last =>
            obtain rfl := Option.some.inj found
            exact ⟨[r, g, b, a], .inr (by simp_all), rfl⟩
          · cases found
        · cases found
      · cases found
    · cases found
  · rintro ⟨name, short | long, rfl⟩
    · obtain ⟨r, _, rfl, red, short⟩ := List.map_eq_cons_iff.mp short
      obtain ⟨g, _, rfl, green, short⟩ := List.map_eq_cons_iff.mp short
      obtain ⟨b, _, rfl, blue, short⟩ := List.map_eq_cons_iff.mp short
      obtain rfl := List.map_eq_nil_iff.mp short
      simp [opening?, red, green, blue]
    · obtain ⟨r, _, rfl, red, long⟩ := List.map_eq_cons_iff.mp long
      obtain ⟨g, _, rfl, green, long⟩ := List.map_eq_cons_iff.mp long
      obtain ⟨b, _, rfl, blue, long⟩ := List.map_eq_cons_iff.mp long
      obtain ⟨a, _, rfl, alpha, long⟩ := List.map_eq_cons_iff.mp long
      obtain rfl := List.map_eq_nil_iff.mp long
      have apart : a ≠ '(' := by
        rintro rfl
        exact absurd alpha (by decide)
      simp [opening?, red, green, blue, alpha]

theorem channel?_append {digits : List Char} (own : IsChannel digits)
    (mark : ∀ c ∈ rest.head?, isDecimal c = false) :
    channel? (digits ++ rest) = some (decimalNat digits, rest) := by
  obtain ⟨taken, left⟩ := span_at_mark own.2 mark
  simp [channel?, taken, left, own.1]

theorem exists_channel {n : Nat} (found : channel? s = some (n, rest)) :
    ∃ digits, IsChannel digits ∧ s = digits ++ rest ∧ n = decimalNat digits := by
  unfold channel? at found
  simp only at found
  split at found
  · next sized =>
    obtain ⟨rfl, rfl⟩ := Prod.mk.inj (Option.some.inj found)
    exact ⟨s.takeWhile isDecimal, ⟨sized, fun c => List.mem_takeWhile_imp⟩,
      List.takeWhile_append_dropWhile.symm, rfl⟩
  · cases found

theorem separator?_append {between : List Char} (own : Separates between)
    (visible : ∀ c ∈ rest.head?, isBlank c = false ∧ c ≠ ',') : separator? (between ++ rest) = some rest := by
  have kept : dropBlank rest = rest := dropBlank_eq_self fun c first => (visible c first).1
  cases own with
  | blanks written blank =>
    obtain ⟨b, blanks, rfl⟩ := List.exists_cons_of_ne_nil written
    have first : isBlank b = true := blank b List.mem_cons_self
    unfold separator?
    rw [dropBlank_append_of_blank blank, kept]
    split
    · next more => exact absurd rfl (visible ',' rfl).2
    · simp [first]
  | comma before behind =>
    unfold separator?
    rw [List.append_assoc, dropBlank_append_of_blank before.2, List.cons_append, dropBlank_cons rfl]
    simp only [dropBlank_append_of_blank behind.2, kept]

theorem exists_separator (found : separator? s = some rest) :
    ∃ between, Separates between ∧ s = between ++ rest := by
  obtain ⟨before, blank, parts⟩ := exists_blanks s
  unfold separator? at found
  split at found
  · next after comma =>
    obtain rfl := Option.some.inj found
    obtain ⟨behind, blankBehind, partsBehind⟩ := exists_blanks after
    refine ⟨before ++ ',' :: behind, .comma ⟨before, blank⟩ ⟨behind, blankBehind⟩, ?_⟩
    rw [List.append_assoc, List.cons_append, ← partsBehind, ← comma, ← parts]
  · split at found
    · next first =>
      obtain rfl := Option.some.inj found
      refine ⟨before, .blanks ?_ blank, parts⟩
      rintro rfl
      rw [List.nil_append] at parts
      cases chars : s.head? with
      | none => simp [chars] at first
      | some c =>
        have visible : isBlank c = false := head_dropBlank (parts ▸ chars)
        simp [chars, visible] at first
    · cases found

/-- The figures of an alpha end at a percent sign, a blank or the bracket. -/
theorem isAlphaChar_eq_true_iff {c : Char} : isAlphaChar c = true ↔ Decimal.IsFigure c := by
  simp [isAlphaChar, Decimal.IsFigure]

theorem isAlphaChar_of_isBlank {c : Char} (blank : isBlank c = true) : isAlphaChar c = false := by
  refine Bool.eq_false_iff.mpr fun figure => ?_
  rw [Decimal.isBlank_of_isFigure (isAlphaChar_eq_true_iff.mp figure)] at blank
  cases blank

theorem ending?_closed (behind : Blanks) : ending? (behind ++ [')']) = some none := by
  unfold ending?
  rw [dropBlank_append_of_blank behind.2]
  rfl

theorem head_behind_blanks {blanks : Blanks} {c mark : Char} (first : c ∈ (blanks.1 ++ mark :: rest).head?) :
    isBlank c = true ∨ c = mark := by
  obtain ⟨blanks, own⟩ := blanks
  cases blanks with
  | nil => exact .inr (Option.some.inj first).symm
  | cons b blanks =>
    obtain rfl := Option.some.inj first
    exact .inl (own b List.mem_cons_self)

theorem head_closing {behind : Blanks} {c : Char} (first : c ∈ (behind.1 ++ [')']).head?) :
    isAlphaChar c = false ∧ c ≠ '%' := by
  rcases head_behind_blanks first with blank | rfl
  · refine ⟨isAlphaChar_of_isBlank blank, ?_⟩
    rintro rfl
    cases blank
  · decide

theorem ending?_alpha (behind : Blanks) (a : Alpha.Spelling) :
    ending? (behind ++ (a.text ++ [')'])) = some (some (a.figures.text, a.percent)) := by
  obtain ⟨⟨mark, marks⟩, before, figures, percent, after⟩ := a
  obtain ⟨d, digits, chars⟩ := List.exists_cons_of_ne_nil figures.text_ne_nil
  have inside : ∀ c ∈ figures.text, isAlphaChar c = true := fun c member =>
    isAlphaChar_eq_true_iff.mpr (figures.isFigure_text c member)
  have visible : isBlank d = false :=
    Decimal.isBlank_of_isFigure (figures.isFigure_text d (chars ▸ List.mem_cons_self))
  have started (rest : List Char) : dropBlank (before ++ (figures.text ++ rest)) = figures.text ++ rest := by
    rw [dropBlank_append_of_blank before.2, chars]
    exact dropBlank_cons visible (digits ++ rest)
  have closing : dropBlank (after ++ [')']) = [')'] := dropBlank_append_of_blank after.2 [')']
  have next : ∀ c ∈ ((if percent then ['%'] else []) ++ (after.1 ++ [')'])).head?, isAlphaChar c = false := by
    intro c first
    cases percent with
    | true =>
      obtain rfl := Option.some.inj first
      decide
    | false => exact (head_closing first).1
  obtain ⟨taken, left⟩ := span_at_mark inside next
  have own : isBlank mark = false ∧ mark ≠ ')' ∧ (mark == ',' || mark == '/') = true := by
    rcases marks with rfl | rfl
    · decide
    · decide
  unfold ending? Alpha.Spelling.text
  rw [dropBlank_append_of_blank behind.2, List.cons_append, dropBlank_cons own.1]
  split
  · next closed => exact absurd (List.cons.inj closed).1 own.2.1
  · next _ _ _ same =>
    obtain ⟨rfl, rfl⟩ := List.cons.inj same
    simp only [List.append_assoc, started, taken, left, own.2.2]
    rw [if_pos (by simp [figures.text_ne_nil])]
    cases percent with
    | true => exact if_pos (beq_iff_eq.mpr closing)
    | false =>
      simp only [Bool.false_eq_true, if_false, List.nil_append]
      split
      · next rest same => exact absurd rfl (head_closing (by rw [same]; rfl)).2
      · exact if_pos (beq_iff_eq.mpr closing)
  · next empty => cases empty

/-- An alpha that is not malformed has figures. -/
theorem exists_figures {digits : List Char} {percent : Bool} (inside : ∀ c ∈ digits, isAlphaChar c = true)
    (readable : Alpha.read digits percent ≠ .malformed) : ∃ f : Decimal.Figures, f.text = digits := by
  cases found : Decimal.read? digits with
  | none => simp [Alpha.read, found] at readable
  | some x =>
    exact Decimal.Figures.exists_text (fun c member => isAlphaChar_eq_true_iff.mp (inside c member)) found

theorem exists_alpha {mark : Char} (marks : mark = ',' ∨ mark = '/') {after : List Char} {percent : Bool}
    (sign : (dropBlank s).dropWhile isAlphaChar = (if percent then ['%'] else []) ++ after)
    (closed : dropBlank after = [')'])
    (readable : Alpha.read ((dropBlank s).takeWhile isAlphaChar) percent ≠ .malformed) :
    ∃ a : Alpha.Spelling, mark :: s = a.text ++ [')'] := by
  obtain ⟨before, blankBefore, partsBefore⟩ := exists_blanks s
  obtain ⟨behind, blankBehind, partsBehind⟩ := exists_blanks after
  obtain ⟨figures, own⟩ := exists_figures (fun c => List.mem_takeWhile_imp) readable
  have digits := List.takeWhile_append_dropWhile (p := isAlphaChar) (l := dropBlank s)
  refine ⟨⟨⟨mark, marks⟩, ⟨before, blankBefore⟩, figures, percent, ⟨behind, blankBehind⟩⟩, ?_⟩
  rw [partsBefore, ← digits, ← own, sign, partsBehind, closed]
  simp [Alpha.Spelling.text]

/-- What ends a colour is spelled so, if its figures are a number. -/
theorem exists_ending {alpha : Option (List Char × Bool)} (found : ending? s = some alpha)
    (readable : ∀ digits percent, alpha = some (digits, percent) → Alpha.read digits percent ≠ .malformed) :
    ∃ (behind : Blanks) (a : Option Alpha.Spelling),
      s = behind ++ ((a.map Alpha.Spelling.text).getD [] ++ [')']) := by
  obtain ⟨behind, blank, parts⟩ := exists_blanks s
  unfold ending? at found
  split at found
  · next closed =>
    refine ⟨⟨behind, blank⟩, none, ?_⟩
    conv_lhs => rw [parts, closed]
    rfl
  · next mark rest _ marked =>
    -- The sign of a percentage may be left out, and either way the bracket must close behind blanks.
    have spelled (percent : Bool) {after : List Char} (marks : mark = ',' ∨ mark = '/')
        (sign : (dropBlank rest).dropWhile isAlphaChar = (if percent then ['%'] else []) ++ after)
        (found : (if dropBlank after == [')'] then some (some ((dropBlank rest).takeWhile isAlphaChar, percent))
          else none) = some alpha) :
        ∃ (behind : Blanks) (a : Option Alpha.Spelling),
          s = behind ++ ((a.map Alpha.Spelling.text).getD [] ++ [')']) := by
      split at found
      · next closed =>
        obtain ⟨a, own⟩ := exists_alpha marks sign (beq_iff_eq.mp closed)
          (readable _ _ (Option.some.inj found).symm)
        exact ⟨⟨behind, blank⟩, some a, by rw [parts, marked, own]; rfl⟩
      · cases found
    simp only at found
    split at found
    · next both =>
      simp only [Bool.and_eq_true, Bool.or_eq_true, beq_iff_eq] at both
      split at found
      · next after sign => exact spelled true both.1 sign found
      · exact spelled false both.1 rfl found
    · cases found
  · cases found

/-! Texts. -/

theorem head_channel {digits : List Char} (own : IsChannel digits) {c : Char}
    (first : c ∈ (digits ++ rest).head?) : isDecimal c = true := by
  cases digits with
  | nil => exact absurd own.1.1 (by decide)
  | cons d digits =>
    obtain rfl := Option.some.inj first
    exact own.2 d List.mem_cons_self

theorem isDecimal_of_isBlank {c : Char} (blank : isBlank c = true) : isDecimal c = false := by
  refine Bool.eq_false_iff.mpr fun digit => ?_
  rw [isBlank_of_isDecimal digit] at blank
  cases blank

theorem head_separator {between : List Char} (own : Separates between) {c : Char}
    (first : c ∈ (between ++ rest).head?) : isDecimal c = false := by
  cases own with
  | blanks written blank =>
    obtain ⟨b, blanks, rfl⟩ := List.exists_cons_of_ne_nil written
    obtain rfl := Option.some.inj first
    exact isDecimal_of_isBlank (blank b List.mem_cons_self)
  | comma before behind =>
    rw [List.append_assoc, List.cons_append] at first
    rcases head_behind_blanks first with blank | rfl
    · exact isDecimal_of_isBlank blank
    · decide

theorem head_ending (c : Spelling) {d : Char} (first : d ∈ c.ending.head?) : isDecimal d = false := by
  unfold Spelling.ending at first
  cases own : c.alpha with
  | none =>
    rw [own] at first
    rcases head_behind_blanks first with blank | rfl
    · exact isDecimal_of_isBlank blank
    · decide
  | some a =>
    rw [own] at first
    rcases head_behind_blanks first with blank | rfl
    · exact isDecimal_of_isBlank blank
    · rcases a.mark.2 with comma | slash
      · rw [comma]
        decide
      · rw [slash]
        decide

/-- A colour is read by its channels and by what is written of its alpha. -/
theorem read?_text {c : Spelling} (own : c.text = trim s) : read? s =
    some ⟨decimalNat c.red, decimalNat c.green, decimalNat c.blue,
      c.alpha.map fun a => (a.figures.text, a.percent)⟩ := by
  have visible {digits : {s : List Char // IsChannel s}} {rest : List Char} :
      ∀ d ∈ (digits.1 ++ rest).head?, isBlank d = false ∧ d ≠ ',' := by
    intro d first
    have digit := head_channel digits.2 first
    exact ⟨isBlank_of_isDecimal digit, ne_of_isDecimal digit (by decide)⟩
  have opened := opening?_eq_some.mpr ⟨c.name, c.name.2, own.symm⟩
  have started := dropBlank_append_of_blank c.before.2
    (c.red ++ (c.first ++ (c.green ++ (c.second ++ (c.blue ++ c.ending)))))
  rw [dropBlank_eq_self fun d first => (visible d first).1] at started
  have channel {digits : {s : List Char // IsChannel s}} (between : {s : List Char // Separates s})
      (rest : List Char) : channel? (digits ++ (between ++ rest)) = some (decimalNat digits, between ++ rest) :=
    channel?_append digits.2 fun d first => head_separator between.2 first
  have last : channel? (c.blue ++ c.ending) = some (decimalNat c.blue, c.ending) :=
    channel?_append c.blue.2 fun d first => head_ending c first
  have ended : ending? c.ending = some (c.alpha.map fun a => (a.figures.text, a.percent)) := by
    unfold Spelling.ending
    cases c.alpha with
    | none => exact ending?_closed c.behind
    | some a => exact ending?_alpha c.behind a
  simp only [read?, opened, started, channel, last, ended, separator?_append c.first.2 visible,
    separator?_append c.second.2 visible, Option.bind_eq_bind, Option.bind_some, Option.pure_def]

/-- What is read as a colour is spelled so, if its alpha has figures. -/
theorem exists_text {c : Rgb} (found : read? s = some c)
    (readable : ∀ digits percent, c.alpha = some (digits, percent) → Alpha.read digits percent ≠ .malformed) :
    ∃ spelling : Spelling, spelling.text = trim s := by
  simp only [read?, Option.bind_eq_bind, Option.bind_eq_some_iff, Option.pure_def, Option.some.injEq] at found
  obtain ⟨opened, named, ⟨_, later⟩, first, ⟨_, later'⟩, ⟨after, separated, second⟩, ⟨_, last⟩,
    ⟨after', separated', third⟩, alpha, ended, rfl⟩ := found
  obtain ⟨name, isName, start⟩ := opening?_eq_some.mp named
  obtain ⟨before, blank, partsBefore⟩ := exists_blanks opened
  obtain ⟨red, isRed, partsRed, -⟩ := exists_channel first
  obtain ⟨between, separates, partsBetween⟩ := exists_separator separated
  obtain ⟨green, isGreen, partsGreen, -⟩ := exists_channel second
  obtain ⟨between', separates', partsBetween'⟩ := exists_separator separated'
  obtain ⟨blue, isBlue, partsBlue, -⟩ := exists_channel third
  obtain ⟨behind, a, partsBehind⟩ := exists_ending ended readable
  refine ⟨⟨⟨name, isName⟩, ⟨before, blank⟩, ⟨red, isRed⟩, ⟨between, separates⟩, ⟨green, isGreen⟩,
    ⟨between', separates'⟩, ⟨blue, isBlue⟩, behind, a⟩, ?_⟩
  simp only at partsBetween partsBetween' partsBehind
  rw [start, partsBefore, partsRed, partsBetween, partsGreen, partsBetween', partsBlue, partsBehind]
  rfl

end Rgb

/-- The bytes of a colour: its channels, and one for an alpha that is not opaque. -/
theorem Rgb.Spelling.exists_bytes {c : Rgb.Spelling} {value : String} (own : c.text = trim value.toList) :
    ∃ more, rgbHex? value = some (String.ofList ('#' :: (c.channels ++ more).flatMap hexByte)) ∧
      more.length ≤ 1 ∧ (∀ n ∈ c.channels ++ more, n ≤ 255) ∧
      (more = [] ↔ ∀ a ∈ c.alpha, Alpha.read a.figures.text a.percent = .opaqueAlpha) := by
  have capped : ∀ n ∈ c.channels, n ≤ 255 := by simp [channels]
  rw [rgbHex?, read?_text own, Option.bind_some, Rgb.hex?_eq]
  cases c.alpha with
  | none =>
    refine ⟨[], ?_, Nat.zero_le 1, by rwa [List.append_nil], by simp⟩
    rw [List.append_nil]
    rfl
  | some a =>
    simp only [Option.map_some]
    cases counted : Alpha.read a.figures.text a.percent with
    | malformed => exact absurd counted (Alpha.read_text_ne a.figures a.percent)
    | opaqueAlpha =>
      refine ⟨[], ?_, Nat.zero_le 1, by rwa [List.append_nil], by simp [counted]⟩
      rw [List.append_nil]
      rfl
    | part n =>
      refine ⟨[n], rfl, Nat.le_refl 1, List.forall_mem_append.mpr ⟨capped, ?_⟩, by simp [counted]⟩
      exact List.forall_mem_singleton.mpr (Alpha.part_le_of_read counted)

/-- A colour has a hexadecimal form exactly if it is spelled by the grammar. Its first bytes are those of
the channels, and another one is there for an alpha of 0.99 or less, but not for one from 1 on. -/
theorem rgbHex?_spelled (value : String) :
    ((rgbHex? value).isSome = true ↔ ∃ c : Rgb.Spelling, c.text = trim value.toList) ∧
    ∀ c : Rgb.Spelling, c.text = trim value.toList →
      ∃ digits, rgbHex? value = some (String.ofList ('#' :: digits)) ∧ (∀ d ∈ digits, d ∈ lowDigits) ∧
        bytesOf (digits.take 6) = c.channels ∧
        ((∀ a ∈ c.alpha, 1 ≤ Alpha.written a.figures a.percent) → digits.length = 6) ∧
        ∀ a ∈ c.alpha, Alpha.written a.figures a.percent ≤ 99 / 100 → digits.length = 8 := by
  refine ⟨⟨fun some => ?_, ?_⟩, fun c own => ?_⟩
  · obtain ⟨hex, found⟩ := Option.isSome_iff_exists.mp some
    obtain ⟨c, read, written⟩ := Option.bind_eq_some_iff.mp found
    refine Rgb.exists_text read fun digits percent own malformed => ?_
    simp [Rgb.hex?, own, malformed] at written
  · rintro ⟨c, own⟩
    obtain ⟨more, found, -⟩ := c.exists_bytes own
    rw [found, Option.isSome_some]
  · obtain ⟨more, found, short, bounded, full⟩ := c.exists_bytes own
    have three : c.channels.length = 3 := rfl
    have sized := length_flatMap_hexByte (c.channels ++ more)
    rw [List.length_append, three] at sized
    refine ⟨_, found, fun d member => ?_, ?_, fun whole => ?_, fun a present less => ?_⟩
    · obtain ⟨n, listed, digit⟩ := List.mem_flatMap.mp member
      exact hexByte_mem (bounded n listed) d digit
    · have first : (c.channels.flatMap hexByte).length = 6 := length_flatMap_hexByte c.channels
      rw [List.flatMap_append, ← first, List.take_left]
      exact bytesOf_flatMap_hexByte (List.forall_mem_append.mp bounded).1
    · have none : more = [] := full.mpr fun a present => Alpha.read_of_ge (whole a present)
      rw [sized, none]
      rfl
    · obtain ⟨n, part⟩ := Alpha.exists_read less
      have some : more ≠ [] := by
        intro none
        have whole := full.mp none a present
        rw [part] at whole
        cases whole
      have one := List.length_pos_iff.mpr some
      omega

/-- A channel beyond 255, blanks and commas in turn, and half a percent. -/
def mixedSpelling : Rgb.Spelling where
  name := ⟨['r', 'G', 'b', 'A'], .inr (by decide)⟩
  before := ⟨[' '], by decide⟩
  red := ⟨['3', '0', '0'], by decide, List.all_eq_true.mp (by decide)⟩
  first := ⟨['\t', ',', ' '], .comma ⟨['\t'], by decide⟩ ⟨[' '], by decide⟩⟩
  green := ⟨['7'], by decide, List.all_eq_true.mp (by decide)⟩
  second := ⟨[' '], .blanks (by decide) (by decide)⟩
  blue := ⟨['0', '0', '1'], by decide, List.all_eq_true.mp (by decide)⟩
  behind := ⟨[' '], by decide⟩
  alpha := some
    { mark := ⟨'/', .inr rfl⟩
      before := ⟨[], nofun⟩
      figures := ⟨[], some ['5'], List.all_eq_true.mp (by decide), by decide⟩
      percent := true
      behind := ⟨[' '], by decide⟩ }

/-- Two commas in a row are not spelled so. -/
theorem rgbHex?_spelled_mixed :
    mixedSpelling.text = trim " rGbA( 300\t, 7 001 /.5% ) ".toList ∧
    (∃ digits, rgbHex? " rGbA( 300\t, 7 001 /.5% ) " = some (String.ofList ('#' :: digits)) ∧
      bytesOf (digits.take 6) = [255, 7, 1] ∧ digits.length = 8) ∧
    ¬∃ c : Rgb.Spelling, c.text = trim "rgb(1,,2 3)".toList := by
  have own : mixedSpelling.text = trim " rGbA( 300\t, 7 001 /.5% ) ".toList := by decide +kernel
  have less : Alpha.written ⟨[], some ['5'], List.all_eq_true.mp (by decide), by decide⟩ true ≤ 99 / 100 := by
    have five : decimalNat ['5'] = 5 := by decide
    norm_num [Alpha.written, Decimal.Figures.value, Decimal.Figures.digits, five]
  obtain ⟨digits, found, -, channels, -, parts⟩ := (rgbHex?_spelled _).2 mixedSpelling own
  refine ⟨own, ⟨digits, found, channels, parts _ rfl less⟩, fun spelled => ?_⟩
  exact absurd ((rgbHex?_spelled "rgb(1,,2 3)").1.mpr spelled) (by decide +kernel)

end Clipping.Color

import Clipping.Proofs.Number.Written
import Clipping.Proofs.Utility.Sides
import Mathlib.Data.Bool.AllAny

/-! Whole pixels and their keys. A length of whole pixels has the key that reads as so many, however it is
spelled, so two of them share a key only if they are the same. -/
namespace Clipping

open Text

/-! Integers. -/

/-- The digits at the start of a text as a number, with what follows them. -/
def Text.natural? (s : List Char) : Option (Nat × List Char) :=
  let digits := s.takeWhile isDecimal
  if digits.isEmpty then none else some (decimalNat digits, s.dropWhile isDecimal)

/-- A number at the start of a text, perhaps with a sign, and what follows it. -/
def Text.integer? : List Char → Option (Int × List Char)
  | '-' :: s => (natural? s).map fun (n, rest) => (-n, rest)
  | s => (natural? s).map fun (n, rest) => (n, rest)

theorem natural?_toDigits (n : Nat) {rest : List Char} (mark : ∀ c ∈ rest.head?, isDecimal c = false) :
    natural? (Nat.toDigits 10 n ++ rest) = some (n, rest) := by
  have digits : ∀ c ∈ Nat.toDigits 10 n, isDecimal c = true := fun c => isDecimal_of_mem_toDigits
  obtain ⟨taken, left⟩ := span_at_mark digits mark
  simp [natural?, taken, left, decimalNat_toDigits, Nat.toDigits_ne_nil]

theorem integer?_of_digit {c : Char} {s : List Char} (digit : isDecimal c = true) :
    integer? (c :: s) = (natural? (c :: s)).map fun (n, rest) => ((n : Int), rest) := by
  have unsigned : c ≠ '-' := ne_of_isDecimal digit (by decide)
  simp [integer?, unsigned]

theorem integer?_toString (n : Int) {rest : List Char} (mark : ∀ c ∈ rest.head?, isDecimal c = false) :
    integer? ((toString n).toList ++ rest) = some (n, rest) := by
  cases n with
  | ofNat n =>
    have read := natural?_toDigits n mark
    obtain ⟨c, digits, chars, own⟩ := exists_toDigits n
    have written : (toString (Int.ofNat n)).toList = c :: digits := (toList_toString n).trans chars
    rw [chars] at read
    rw [written, List.cons_append, integer?_of_digit own, ← List.cons_append, read]
    rfl
  | negSucc n =>
    have written : (toString (Int.negSucc n)).toList = '-' :: Nat.toDigits 10 (n + 1) := by
      show ("-" ++ Nat.repr (n + 1)).toList = _
      rw [String.toList_append, Nat.toList_repr]
      rfl
    rw [written, List.cons_append, integer?, natural?_toDigits (n + 1) mark]
    rfl

/-! Spellings. -/

/-- Whole pixels up to the precision of a number: a sign, digits with leading zeros or without them, the
unit in any case or none, and blanks around it all. -/
structure Length.Whole where
  before : Blanks
  negative : Bool
  digits : List Char
  decimal : ∀ c ∈ digits, isDecimal c = true
  written : digits ≠ []
  bounded : decimalNat digits ≤ 2 ^ 53
  unit : {s : List Char // s = [] ∨ s.map Char.toLower = ['p', 'x']}
  behind : Blanks

namespace Length.Whole

def sign (p : Whole) : List Char := if p.negative then ['-'] else []

def text (p : Whole) : String :=
  String.ofList (p.before ++ (p.sign ++ (p.digits ++ p.unit.1) ++ p.behind))

def amount (p : Whole) : Int := if p.negative then -decimalNat p.digits else decimalNat p.digits

theorem natAbs_amount_le (p : Whole) : p.amount.natAbs ≤ 2 ^ 53 := by
  have bounded := p.bounded
  unfold amount
  split
  · omega
  · omega

theorem mem_unit (p : Whole) {c : Char} (member : c ∈ p.unit.1) : c ∈ ['p', 'P', 'x', 'X'] := by
  rcases p.unit.2 with none | named
  · rw [none] at member
    cases member
  · have lower : c.toLower ∈ ['p', 'x'] := named ▸ List.mem_map_of_mem member
    simp only [List.mem_cons, List.not_mem_nil, or_false] at lower ⊢
    rcases lower with first | last
    · have := eq_or_of_toLower (by decide : 'p'.toNat = 'P'.toNat + 32) first
      tauto
    · have := eq_or_of_toLower (by decide : 'x'.toNat = 'X'.toNat + 32) last
      tauto

theorem numeral?_digits (p : Whole) : Length.numeral? (p.digits ++ p.unit.1) = some (p.digits, p.unit.1) := by
  have letters : ∀ c ∈ ['p', 'P', 'x', 'X'], isDecimal c = false ∧ c ≠ '.' :=
    List.all_iff_forall_prop.mp (by decide)
  obtain ⟨taken, left⟩ := span_at_mark p.decimal fun c first =>
    (letters c (p.mem_unit (List.mem_of_mem_head? first))).1
  unfold Length.numeral?
  simp only [taken, left]
  split
  · next rest point => exact absurd rfl (letters '.' (p.mem_unit (by rw [point]; exact List.mem_cons_self))).2
  · simp [p.written]

/-- No blank is among the other characters. -/
theorem isBlank_spelled (p : Whole) : ∀ c ∈ p.sign ++ (p.digits ++ p.unit.1), isBlank c = false := by
  have letters : ∀ c ∈ ['p', 'P', 'x', 'X'], isBlank c = false := List.all_iff_forall_prop.mp (by decide)
  intro c member
  rcases List.mem_append.mp member with first | later
  · unfold sign at first
    split at first
    · obtain rfl := List.mem_singleton.mp first
      rfl
    · cases first
  · rcases List.mem_append.mp later with digit | unit
    · exact isBlank_of_isDecimal (p.decimal c digit)
    · exact letters c (p.mem_unit unit)

theorem trim_text (p : Whole) : trim p.text.toList = p.sign ++ (p.digits ++ p.unit.1) := by
  rw [text, String.toList_ofList, trim_append_of_blank p.before.2, trim_append_blank p.behind.2,
    trim_of_unbroken p.isBlank_spelled]

def figures (p : Whole) : Decimal.Figures where
  whole := p.digits
  places := none
  decimal := by simpa using p.decimal
  written := by simpa using p.written

theorem signedNumeral?_text (p : Whole) :
    Length.signedNumeral? (p.sign ++ (p.digits ++ p.unit.1)) = some (p.sign ++ p.digits, p.unit.1) := by
  unfold sign
  cases p.negative with
  | true => simp [Length.signedNumeral?, p.numeral?_digits]
  | false =>
    unfold Length.signedNumeral?
    split
    · next rest signed =>
      obtain ⟨d, digits, chars⟩ := List.exists_cons_of_ne_nil p.written
      rw [chars] at signed
      have digit : isDecimal d = true := p.decimal d (chars ▸ List.mem_cons_self)
      exact absurd (List.cons.inj signed).1 (ne_of_isDecimal digit (by decide))
    · exact p.numeral?_digits

theorem read?_digits (p : Whole) :
    Decimal.read? (p.sign ++ p.digits) = some (.ofRatio p.negative (decimalNat p.digits) 1) := by
  have text : p.figures.text = p.digits := List.append_nil p.digits
  have rounded (negative : Bool) : p.figures.rounded negative = .ofRatio negative (decimalNat p.digits) 1 := by
    simp [Decimal.Figures.rounded, Decimal.Figures.digits, figures]
  unfold sign
  cases p.negative with
  | true => exact (text ▸ p.figures.read_negative).trans (congrArg some (rounded true))
  | false => exact (text ▸ p.figures.read_text).trans (congrArg some (rounded false))

theorem exists_pixels (p : Whole) : ∃ x, Length.pixels? p.text = some x ∧ x.value = p.amount := by
  have units : (p.unit.1.map Char.toLower == [] || p.unit.1.map Char.toLower == ['p', 'x']) = true := by
    rcases p.unit.2 with none | named
    · simp [none]
    · simp [named]
  have exact : ((decimalNat p.digits : Nat) : Rat) = decimalNat p.digits * power 2 0 * (1 : Nat) := by
    simp [power_two]
  obtain ⟨x, rounded, sign, size⟩ := Binary64.ofRatio_exact_le p.negative Nat.one_pos p.bounded (by decide)
    (by decide) exact
  refine ⟨x, ?_, ?_⟩
  · rw [Length.pixels?, trim_text, signedNumeral?_text]
    simp only [units, if_true, read?_digits, rounded]
    rfl
  · rw [Finite.value, sign, size, amount]
    cases p.negative <;> simp [power_two]

end Length.Whole

/-! Keys. -/

theorem Finite.whole?_of_value {x : Finite} {n : Int} (own : x.value = n) : x.whole? = some n := by
  simp [whole?, own]

theorem Finite.whole?_eq_none {x : Finite} (other : ∀ n : Int, x.value ≠ n) : x.whole? = none := by
  refine if_neg fun one => other x.value.num ?_
  exact (Rat.den_eq_one_iff _).mp one |>.symm

namespace Scale

/-- The keys that have names of their own, with their pixels. -/
def names : List (String × Int) := [("px", 1), ("0.5", 2), ("1.5", 6), ("2.5", 10), ("3.5", 14)]

/-- The pixels that a key stands for: steps of four up to 96, those of a name, or what is written in
brackets. -/
def reading? (key : String) : Option Int :=
  match integer? key.toList with
  | some (n, []) => if 0 ≤ n ∧ n ≤ 96 then some (4 * n) else none
  | _ =>
    match after? ['['] key.toList with
    | some literal =>
      match integer? literal with
      | some (n, ['p', 'x', ']']) => some n
      | _ => none
    | none => names.lookup key

def Has (n : Int) : Prop := n ∈ names.map Prod.snd ∨ (4 ∣ n ∧ 0 ≤ n ∧ n ≤ 4 * 96)

def wholeKey (n : Int) : String :=
  if n = 1 then "px"
  else if n = 2 then "0.5"
  else if n = 6 then "1.5"
  else if n = 10 then "2.5"
  else if n = 14 then "3.5"
  else if 4 ∣ n ∧ 0 ≤ n ∧ n ≤ 4 * 96 then toString (n / 4)
  else "[" ++ toString n ++ "px]"

theorem value_unit : (⟨false, 4, 0⟩ : Finite).value = 4 := by
  simp [Finite.value, Finite.magnitude, power]

/-- A quarter of a whole number is kept. -/
theorem exists_steps {x : Finite} {n : Int} (own : x.value = n) (small : n.natAbs ≤ 2 ^ 53) :
    ∃ y, x.div ⟨false, 4, 0⟩ = .finite y ∧ y.value = n / 4 := by
  have size : |(n : Rat) / 4| = n.natAbs * power 2 (-2) := by
    rw [power_two, abs_div, Nat.cast_natAbs, Int.cast_abs]
    norm_num
    ring
  obtain ⟨y, rounded, value⟩ := Binary64.ofRat_exact (x.negative != false) small (by decide) (by decide) size
  refine ⟨y, ?_, value⟩
  rw [Finite.div, own, value_unit]
  exact rounded

theorem literal_of_value {x : Finite} {n : Int} (own : x.value = n) :
    "[" ++ Length.finiteText x ++ "]" = "[" ++ toString n ++ "px]" := by
  rw [Length.finiteText, Finite.whole?_of_value own]
  simp [← String.toList_inj]

theorem stepKey_of_value {x y : Finite} {n : Int} (own : x.value = n) (steps : y.value = n / 4)
    (other : n ≠ 0 ∧ n ≠ 1) : stepKey 96 x y = wholeKey n := by
  -- The half steps are told by twice the steps, which are the pixels by two.
  have doubled (m : Int) : 2 * y.value = m ↔ n = 2 * m := by
    rw [steps]
    constructor
    · intro same
      have whole : (n : Rat) = 2 * m := by linarith
      exact_mod_cast whole
    · rintro rfl
      push_cast
      ring
  have one := doubled 1
  have three := doubled 3
  have five := doubled 5
  have seven := doubled 7
  norm_num at one three five seven
  unfold stepKey wholeKey
  simp only [one, three, five, seven, if_neg other.2]
  split
  · rfl
  · split
    · rfl
    · split
      · rfl
      · split
        · rfl
        · by_cases divides : 4 ∣ n
          · obtain ⟨k, rfl⟩ := divides
            have whole : y.whole? = some k := Finite.whole?_of_value (by rw [steps]; push_cast; ring)
            have inside : (4 ∣ 4 * k ∧ 0 ≤ 4 * k ∧ 4 * k ≤ 4 * 96) ↔ 1 ≤ k ∧ k ≤ 96 := by omega
            simp only [whole, inside, Int.mul_ediv_cancel_left k (by decide : (4 : Int) ≠ 0), literal_of_value own]
          · have none : y.whole? = none := Finite.whole?_eq_none fun k same => divides ⟨k, by
              rw [steps] at same
              have whole : (n : Rat) = 4 * k := by linarith
              exact_mod_cast whole⟩
            simp only [none, divides, false_and, if_false, literal_of_value own]

theorem key_of_value {x : Finite} {n : Int} (own : x.value = n) (small : n.natAbs ≤ 2 ^ 53) :
    standard.key (.finite x) = .ok (wholeKey n) := by
  by_cases zero : n = 0
  · subst zero
    exact key_standard_of_zero (by simpa using own)
  by_cases one : n = 1
  · subst one
    simp [key, own, wholeKey]
  obtain ⟨y, divided, steps⟩ := exists_steps own small
  have stepped : Scale.steps (.finite x) standard.unit = .ok (.finite y) := by
    simp [Scale.steps, standard, value_unit, divided]
  have apart : x.value ≠ 0 ∧ x.value ≠ 1 := by
    rw [own]
    exact ⟨by exact_mod_cast zero, by exact_mod_cast one⟩
  simp only [key, if_neg apart.1, if_neg apart.2, stepped]
  exact congrArg _ (stepKey_of_value own steps ⟨zero, one⟩)

/-- The key is a name of the amount, its steps, or the amount in brackets if the scale has it not. -/
theorem wholeKey_cases (n : Int) :
    (∃ name ∈ names, n = name.2 ∧ wholeKey n = name.1) ∨
    (∃ k : Nat, k ≤ 96 ∧ n = 4 * k ∧ wholeKey n = toString (k : Int)) ∨
    (¬Has n ∧ wholeKey n = "[" ++ toString n ++ "px]") := by
  by_cases named : n ∈ names.map Prod.snd
  · obtain ⟨name, listed, rfl⟩ := List.mem_map.mp named
    exact .inl ⟨name, listed, rfl,
      (by decide : ∀ name ∈ names, wholeKey name.2 = name.1) name listed⟩
  have other : n ≠ 1 ∧ n ≠ 2 ∧ n ≠ 6 ∧ n ≠ 10 ∧ n ≠ 14 := by simpa [names] using named
  by_cases inside : 4 ∣ n ∧ 0 ≤ n ∧ n ≤ 4 * 96
  · obtain ⟨⟨m, rfl⟩, least, most⟩ := inside
    obtain ⟨k, rfl⟩ := Int.eq_ofNat_of_zero_le (by omega : 0 ≤ m)
    refine .inr (.inl ⟨k, by omega, rfl, ?_⟩)
    have whole : 4 ∣ 4 * (k : Int) ∧ 0 ≤ 4 * (k : Int) ∧ 4 * (k : Int) ≤ 4 * 96 := ⟨⟨k, rfl⟩, least, most⟩
    simp only [wholeKey, other, whole, if_false, Int.mul_ediv_cancel_left _ (by decide : (4 : Int) ≠ 0)]
    simp
  · refine .inr (.inr ⟨not_or.mpr ⟨named, inside⟩, ?_⟩)
    simp only [wholeKey, other, inside, if_false]

theorem reading?_step {k : Nat} (most : k ≤ 96) : reading? (toString (k : Int)) = some (4 * (k : Int)) := by
  have read := integer?_toString k (show ∀ c ∈ ([] : List Char).head?, isDecimal c = false from nofun)
  rw [List.append_nil] at read
  unfold reading?
  rw [read]
  exact if_pos ⟨by omega, by omega⟩

theorem reading?_literal (n : Int) : reading? ("[" ++ toString n ++ "px]") = some n := by
  have mark : ∀ c ∈ ['p', 'x', ']'].head?, isDecimal c = false := by
    rintro c ⟨rfl⟩
    decide
  have read := integer?_toString n mark
  have chars : ("[" ++ toString n ++ "px]").toList = '[' :: ((toString n).toList ++ ['p', 'x', ']']) := by
    simp
  have unread (s : List Char) : integer? ('[' :: s) = none := by
    have other : isDecimal '[' = false := by decide
    simp [integer?, natural?, other]
  unfold reading?
  rw [chars, unread]
  simp only [after?, if_true, read]

theorem reading?_wholeKey (n : Int) : reading? (wholeKey n) = some n := by
  rcases wholeKey_cases n with ⟨name, listed, rfl, own⟩ | ⟨k, most, rfl, own⟩ | ⟨-, own⟩
  · rw [own]
    exact (by decide : ∀ name ∈ names, reading? name.1 = some name.2) name listed
  · rw [own, reading?_step most]
  · rw [own, reading?_literal]

theorem isLiteralKey_wholeKey (n : Int) : Utility.Output.isLiteralKey (wholeKey n) = true ↔ ¬Has n := by
  rcases wholeKey_cases n with ⟨name, listed, rfl, own⟩ | ⟨k, most, rfl, own⟩ | ⟨other, own⟩
  · have bare : ∀ name ∈ names, Utility.Output.isLiteralKey name.1 = false := by decide
    have has : Has name.2 := .inl (List.mem_map_of_mem listed)
    simp [own, bare name listed, has]
  · have has : Has (4 * k) := .inr ⟨⟨k, rfl⟩, by omega, by omega⟩
    have bare : Utility.Output.isLiteralKey (toString (k : Int)) = false := by
      obtain ⟨c, digits, chars, digit⟩ := exists_toDigits k
      have other : c ≠ '[' := ne_of_isDecimal digit (by decide)
      rw [Utility.Output.isLiteralKey, toList_toString, chars]
      simp [other]
    rw [own, bare]
    simp [has]
  · simp [own, other, Utility.Output.isLiteralKey]

end Scale

/-- Whole pixels have the key that reads as them, in brackets only if the scale has it not, so they share
a key only with themselves. -/
theorem whole_pixels_keyed :
    (∀ p : Length.Whole, ∃ key, Scale.key? p.text = some key ∧ Scale.reading? key = some p.amount ∧
      (Utility.Output.isLiteralKey key = true ↔ ¬Scale.Has p.amount)) ∧
    ∀ p q : Length.Whole, Scale.key? p.text = Scale.key? q.text ↔ p.amount = q.amount := by
  have keyed (p : Length.Whole) : Scale.key? p.text = some (Scale.wholeKey p.amount) := by
    obtain ⟨x, read, own⟩ := p.exists_pixels
    exact Scale.key?_eq_some_iff.mpr ⟨x, read, Scale.key_of_value own p.natAbs_amount_le⟩
  refine ⟨fun p => ⟨_, keyed p, Scale.reading?_wholeKey _, Scale.isLiteralKey_wholeKey _⟩, fun p q => ?_⟩
  rw [keyed, keyed, Option.some.injEq]
  constructor
  · intro same
    have read := congrArg Scale.reading? same
    rw [Scale.reading?_wholeKey, Scale.reading?_wholeKey] at read
    exact Option.some.inj read
  · exact congrArg Scale.wholeKey

/-- Leading zeros, the unit in another case and blanks make no difference. -/
theorem whole_pixels_keyed_respelled :
    ∃ p q : Length.Whole, p.text = " -0014Px\n" ∧ q.text = "-14" ∧ Scale.key? p.text = Scale.key? q.text ∧
      ∃ key, Scale.key? p.text = some key ∧ Scale.reading? key = some (-14) ∧
        Utility.Output.isLiteralKey key = true := by
  let p : Length.Whole := ⟨⟨[' '], by decide⟩, true, ['0', '0', '1', '4'], List.all_eq_true.mp (by decide),
    by decide, by decide, ⟨['P', 'x'], by decide⟩, ⟨['\n'], by decide⟩⟩
  let q : Length.Whole := ⟨⟨[], by decide⟩, true, ['1', '4'], List.all_eq_true.mp (by decide), by decide, by decide,
    ⟨[], by decide⟩, ⟨[], by decide⟩⟩
  have amounts : p.amount = -14 ∧ q.amount = -14 := ⟨by decide, by decide⟩
  obtain ⟨key, named, reads, literal⟩ := whole_pixels_keyed.1 p
  refine ⟨p, q, by decide, by decide, (whole_pixels_keyed.2 p q).mpr ?_, key, named, ?_, literal.mpr ?_⟩
  · rw [amounts.1, amounts.2]
  · rw [reads, amounts.1]
  · rw [amounts.1]
    rintro (listed | ⟨-, least, -⟩)
    · exact absurd listed (by decide)
    · exact absurd least (by decide)

end Clipping

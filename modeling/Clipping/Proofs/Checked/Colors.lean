import Clipping.Color.Token
import Clipping.Proofs.Checked.Operations
import Clipping.Proofs.Color.Hexadecimal

/-! Colours, computed with operations that may fail. Channels have three digits at most; a malformed
alpha is absorbed, and any other is held between zero and one before it is counted. -/
namespace Clipping.Checked

open Text Color

/-! Channels. -/

structure RgbText where
  red : List Char
  green : List Char
  blue : List Char
  alpha : Option (List Char × Bool)

def channelText? (s : List Char) : Option (List Char × List Char) :=
  let digits := s.takeWhile isDecimal
  if 1 ≤ digits.length ∧ digits.length ≤ 3 then some (digits, s.dropWhile isDecimal) else none

def rgbText? (s : List Char) : Option RgbText := do
  let rest ← Rgb.opening? (trim s)
  let (red, rest) ← channelText? (dropBlank rest)
  let (green, rest) ← Rgb.separator? rest >>= channelText?
  let (blue, rest) ← Rgb.separator? rest >>= channelText?
  let alpha ← Rgb.ending? rest
  return ⟨red, green, blue, alpha⟩

def readRgb (s : List Char) : Checked (Option Rgb) :=
  match rgbText? s with
  | none => return none
  | some t => do
    let red ← whole t.red
    let green ← whole t.green
    let blue ← whole t.blue
    return some ⟨red, green, blue, t.alpha⟩

def decoded (found : List Char × List Char) : Nat × List Char := (decimalNat found.1, found.2)

theorem channel_eq (s : List Char) : Rgb.channel? s = (channelText? s).map decoded := by
  unfold Rgb.channel? channelText?
  simp only
  split
  · rfl
  · rfl

theorem separated_eq (s : List Char) : (Rgb.separator? s).bind Rgb.channel? =
    ((Rgb.separator? s).bind channelText?).map decoded := by
  rw [Option.map_bind]
  exact Option.bind_congr fun rest _ => channel_eq rest

theorem whole_channelText {s digits rest : List Char} (found : channelText? s = some (digits, rest)) :
    whole digits = .ok (decimalNat digits) := by
  unfold channelText? at found
  simp only at found
  split at found
  · next short =>
    cases found
    exact whole_takeWhile (Nat.le_trans short.2 (by decide)) short.1
  · cases found

theorem whole_separated {s digits rest : List Char}
    (found : (Rgb.separator? s).bind channelText? = some (digits, rest)) :
    whole digits = .ok (decimalNat digits) := by
  obtain ⟨after, -, own⟩ := Option.bind_eq_some_iff.mp found
  exact whole_channelText own

@[simp] theorem readRgb_eq (s : List Char) : readRgb s = .ok (Rgb.read? s) := by
  unfold readRgb rgbText? Rgb.read?
  simp only [Option.bind_eq_bind, separated_eq]
  simp only [channel_eq]
  cases Rgb.opening? (trim s) with
  | none => rfl
  | some rest =>
    simp only [Option.bind_some]
    rcases red : channelText? (dropBlank rest) with _ | ⟨first, rest⟩
    · rfl
    · simp only [Option.bind_some, Option.map_some, decoded]
      rcases green : (Rgb.separator? rest).bind channelText? with _ | ⟨second, rest⟩
      · rfl
      · simp only [Option.bind_some, Option.map_some, decoded]
        rcases blue : (Rgb.separator? rest).bind channelText? with _ | ⟨third, rest⟩
        · rfl
        · simp only [Option.bind_some, Option.map_some, decoded]
          cases Rgb.ending? rest with
          | none => rfl
          | some alpha =>
            simp [whole_channelText red, whole_separated green, whole_separated blue]

/-! Alphas. -/

theorem figures_of_ending {s digits : List Char} {percent : Bool}
    (found : Rgb.ending? s = some (some (digits, percent))) : ∀ c ∈ digits, Decimal.IsFigure c := by
  have own {rest : List Char} : ∀ c ∈ rest.takeWhile Rgb.isAlphaChar, Decimal.IsFigure c := by
    intro c member
    simpa [Rgb.isAlphaChar, Decimal.IsFigure] using List.mem_takeWhile_imp member
  have closed {end? : Prop} [Decidable end?] {taken : List Char} {mark : Bool}
      (figures : ∀ c ∈ taken, Decimal.IsFigure c)
      (found : (if end? then some (some (taken, mark)) else none) = some (some (digits, percent))) :
      ∀ c ∈ digits, Decimal.IsFigure c := by
    split at found
    · cases found
      exact figures
    · cases found
  unfold Rgb.ending? at found
  split at found
  · cases found
  · simp only at found
    split at found
    · split at found
      · exact closed own found
      · exact closed own found
    · cases found
  · cases found

theorem figures_of_read {s : List Char} {c : Rgb} {digits : List Char} {percent : Bool}
    (found : Rgb.read? s = some c) (alpha : c.alpha = some (digits, percent)) :
    ∀ c ∈ digits, Decimal.IsFigure c := by
  unfold Rgb.read? at found
  simp only [Option.bind_eq_bind, Option.bind_eq_some_iff] at found
  obtain ⟨_, -, _, -, _, -, _, -, own, ending, same⟩ := found
  cases same
  exact figures_of_ending (ending.trans (congrArg some alpha))

def one : Finite := ⟨false, 1, 0⟩

def clamped (x : Binary64) : Binary64 :=
  let low := if Binary64.lt (.finite one) x then .finite one else x
  if Binary64.lt (.finite (.zero false)) low then low else .finite (.zero false)

def alphaNumber (digits : List Char) (percent : Bool) : Checked Binary64 := do
  let x ← number digits
  if percent then quotient x (.finite ⟨false, 100, 0⟩) else return x

def alphaOf (x : Binary64) : Checked Alpha := do
  if reaches x (.finite one) then return .opaqueAlpha
  else
    let n ← integer Finite.nearestInt (product x ⟨false, 255, 0⟩)
    return .part n.toNat

def readAlpha (digits : List Char) (percent : Bool) : Checked Alpha := do
  match ← absorbing (alphaNumber digits percent) with
  | none => return .malformed
  | some x => alphaOf (clamped x)

def hex? (c : Rgb) : Checked (Option (List Char)) := do
  let channels := '#' :: [c.red, c.green, c.blue].flatMap fun n => hexByte (min n 255)
  match c.alpha with
  | none => return some channels
  | some (digits, percent) =>
    match ← readAlpha digits percent with
    | .malformed => return none
    | .opaqueAlpha => return some channels
    | .part n => return some (channels ++ hexByte n)

def rgbHex? (value : String) : Checked (Option String) := do
  match ← readRgb value.toList with
  | none => return none
  | some c =>
    let hex ← hex? c
    return hex.map String.ofList

def canonical? (value : String) : Checked (Option String) :=
  let s := trim value.toList
  if isRgb s then rgbHex? value else return (hexNotation? s).map String.ofList

def colorToken (value stem : String) : Checked Color.Token := do
  match ← canonical? value with
  | none => return ⟨Literal.value stem value, none⟩
  | some hex =>
    match Swatch.named? hex with
    | some swatch => return ⟨stem ++ "-" ++ swatch.name, some swatch⟩
    | none => return ⟨stem ++ "-[" ++ hex ++ "]", none⟩

theorem value_one : one.value = 1 := by simp [one, Finite.value, Finite.magnitude, power]

theorem lt_finite (x y : Finite) : Binary64.lt (.finite x) (.finite y) = decide (x.value < y.value) := rfl

theorem clamped_above {x : Binary64} (above : Binary64.lt (.finite one) x = true) : clamped x = .finite one := by
  simp [clamped, above, lt_finite, value_one, Finite.value_zero]

theorem clamped_finite {x : Finite} (below : x.value ≤ 1) :
    clamped (.finite x) = if 0 < x.value then .finite x else .finite (.zero false) := by
  simp [clamped, lt_finite, value_one, Finite.value_zero, not_lt.mpr below]

theorem alphaOf_of_ge {x : Finite} (full : 1 ≤ x.value) : alphaOf (.finite x) = .ok .opaqueAlpha := by
  simp [alphaOf, reaches, lt_finite, value_one, full]

/-- A number below one is counted. -/
theorem alphaOf_of_lt {x y : Finite} (below : x.value < 1) (multiplied : x.mul ⟨false, 255, 0⟩ = .finite y) :
    alphaOf (.finite x) = .ok (.part y.nearestInt.toNat) := by
  simp [alphaOf, reaches, lt_finite, value_one, below, product, multiplied]

theorem mul_of_zero {x : Finite} (none : x.value = 0) (y : Finite) :
    x.mul y = .finite (.zero (x.negative != y.negative)) := by
  unfold Finite.mul
  rw [none, zero_mul]
  rfl

theorem nearestInt_zero (negative : Bool) : (Finite.zero negative).nearestInt = 0 := by
  unfold Finite.nearestInt
  rw [Finite.magnitude_zero]
  cases negative with
  | false => rfl
  | true => rfl

/-- What is held between zero and one counts as it did before. -/
theorem alphaOf_clamped {x : Binary64} (ranged : Binary64.Ranged false x) :
    alphaOf (clamped x) = .ok (Alpha.ofNumber x) := by
  cases ranged with
  | infinite =>
    rw [clamped_above rfl, alphaOf_of_ge value_one.ge]
    rfl
  | @finite x sign within =>
    have positive := Finite.value_nonneg sign
    unfold Alpha.ofNumber
    rcases lt_trichotomy 1 x.value with above | equal | below
    · rw [clamped_above (by simpa [lt_finite, value_one] using above), alphaOf_of_ge value_one.ge]
      simp only [if_pos above.le]
    · rw [clamped_finite equal.ge, if_pos (by linarith), alphaOf_of_ge equal.le]
      simp only [if_pos equal.le]
    · rw [clamped_finite below.le]
      simp only [if_neg (not_le.mpr below)]
      rcases positive.lt_or_eq with shown | none
      · have bounded : |x.value * (⟨false, 255, 0⟩ : Finite).value| ≤ (255 : Nat) := by
          rw [value_255, abs_of_nonneg (by linarith)]
          push_cast
          linarith
        obtain ⟨y, rounded, -, -⟩ := Binary64.exists_ofRat_le (x.negative != false) bounded (by decide)
        have multiplied : x.mul ⟨false, 255, 0⟩ = .finite y := rounded
        rw [if_pos shown, alphaOf_of_lt below multiplied]
        simp only [multiplied]
      · -- Every zero counts as the positive one.
        have zero := Finite.value_zero false
        rw [if_neg none.not_lt, alphaOf_of_lt (by linarith) (mul_of_zero zero _)]
        simp only [mul_of_zero none.symm, nearestInt_zero]

theorem readAlpha_eq {digits : List Char} (figures : ∀ c ∈ digits, Decimal.IsFigure c) (percent : Bool) :
    readAlpha digits percent = .ok (Alpha.read digits percent) := by
  have divisor : (⟨false, 100, 0⟩ : Finite).value ≠ 0 := by
    simp [Finite.value, Finite.magnitude, power]
  unfold readAlpha alphaNumber Alpha.read
  cases read : Decimal.read? digits with
  | none =>
    rw [number, read]
    rfl
  | some x =>
    rw [number_of_read read, bind_ok]
    cases Decimal.ranged_of_figures figures read with
    | infinite =>
      cases percent with
      | false => exact alphaOf_clamped .infinite
      | true =>
        rw [if_pos rfl, quotient_infinite false divisor]
        exact alphaOf_clamped .infinite
    | @finite x sign within =>
      cases percent with
      | false => exact alphaOf_clamped (.finite sign within)
      | true =>
        rw [if_pos rfl, quotient_finite divisor]
        exact alphaOf_clamped (Finite.ranged_div sign rfl)

@[simp] theorem rgbHex?_eq (value : String) : rgbHex? value = .ok (Color.rgbHex? value) := by
  unfold rgbHex? Color.rgbHex?
  rw [readRgb_eq, bind_ok]
  cases found : Rgb.read? value.toList with
  | none => rfl
  | some c =>
    have checked : hex? c = .ok c.hex? := by
      unfold hex? Rgb.hex?
      cases alpha : c.alpha with
      | none => rfl
      | some written =>
        obtain ⟨digits, percent⟩ := written
        simp only [readAlpha_eq (figures_of_read found alpha), bind_ok]
        cases Alpha.read digits percent with
        | malformed => rfl
        | opaqueAlpha => rfl
        | part n => rfl
    simp [checked]

@[simp] theorem canonical?_eq (value : String) : canonical? value = .ok (Color.canonical? value) := by
  unfold canonical? Color.canonical?
  simp only [rgbHex?_eq, pure_eq]
  split
  · rfl
  · rfl

@[simp] theorem colorToken_eq (value stem : String) : colorToken value stem = .ok (Color.token value stem) := by
  unfold colorToken Color.token
  rw [canonical?_eq, bind_ok]
  cases Color.canonical? value with
  | none => rfl
  | some hex =>
    simp only
    cases Swatch.named? hex with
    | none => rfl
    | some swatch => rfl

end Clipping.Checked

import Clipping.Proofs.Checked.Operations
import Clipping.Utility.Compiler

/-! Lengths and other numbers of values, computed with operations that may fail. What decides that
they do not differs: a numeral is always read, an unreadable text is absorbed, a range is tested
before a number is rounded. -/
namespace Clipping.Checked

open Text Utility

/-! Numbers as texts. -/

def plainText (x : Binary64) : Checked String := do
  if x.finite?.isSome then
    let n ← integer Finite.truncated x
    if equals x n then written n else return x.text
  else return x.text

def pixelText (x : Binary64) : Checked String := do
  let n ← integer Finite.truncated x
  if equals x n then
    let digits ← written n
    return digits ++ "px"
  else
    let short ← rounded x 4
    return short.text ++ "px"

theorem plainText_finite {x : Finite} (within : x.IsWithin) : plainText (.finite x) = .ok x.plain := by
  unfold plainText Finite.plain
  rw [x.whole_eq]
  by_cases whole : x.value = x.truncated
  · simp [Binary64.finite?, if_pos whole, written_truncated within]
  · simp [Binary64.finite?, if_neg whole, Binary64.text]

theorem pixelText_finite {x : Finite} (within : x.IsWithin) :
    pixelText (.finite x) = .ok (Length.finiteText x) := by
  unfold pixelText Length.finiteText
  rw [x.whole_eq]
  by_cases whole : x.value = x.truncated
  · simp [if_pos whole, written_truncated within]
  · simp [if_neg whole, (rounded_finite within 4).1, Binary64.text]

/-! Lengths. -/

def finite? (s : List Char) : Checked (Option Finite) := do
  let read ← absorbing (number s)
  return read.bind Binary64.finite?

def pixels? (value : String) : Checked (Option Finite) :=
  match Length.signedNumeral? (trim value.toList) with
  | some (digits, rest) =>
    if rest.map Char.toLower == [] || rest.map Char.toLower == ['p', 'x'] then do
      let x ← number digits
      return x.finite?
    else return none
  | none => return none

def halfSteps : List (Rat × String) := [(1 / 2, "0.5"), (3 / 2, "1.5"), (5 / 2, "2.5"), (7 / 2, "3.5")]

def scaleKey (s : Scale) (amount : Binary64) : Checked String := do
  if equals amount 0 then return "0"
  else if equals amount 1 then return "px"
  else
    let steps ← quotient amount s.unit
    match steps.finite?.bind fun n => halfSteps.lookup n.value with
    | some key => return key
    | none =>
      let n ← integer Finite.truncated steps
      if equals steps n ∧ 1 ≤ n ∧ n ≤ s.limit then written n
      else
        let text ← pixelText amount
        return "[" ++ text ++ "]"

def lengthKey (value : String) : Checked String := do
  match ← pixels? value with
  | some x => scaleKey .standard (.finite x)
  | none => return Literal.bracketed value

@[simp] theorem finite?_eq (s : List Char) : finite? s = .ok ((Decimal.read? s).bind Binary64.finite?) := by
  simp [finite?]

@[simp] theorem pixels?_eq (value : String) : pixels? value = .ok (Length.pixels? value) := by
  unfold pixels? Length.pixels?
  cases found : Length.signedNumeral? (trim value.toList) with
  | none => rfl
  | some parts =>
    obtain ⟨digits, rest⟩ := parts
    obtain ⟨x, read⟩ := Decimal.exists_read_of_signedNumeral found
    simp only [number_of_read read, bind_ok, pure_eq, read, Option.bind_some]
    split
    · rfl
    · rfl

theorem isWithin_of_finite {s : List Char} {x : Finite}
    (found : (Decimal.read? s).bind Binary64.finite? = some x) : x.IsWithin := by
  obtain ⟨y, read, finite⟩ := Option.bind_eq_some_iff.mp found
  cases y with
  | nan => cases finite
  | infinite negative => cases finite
  | finite y =>
    cases finite
    exact Decimal.isWithin_of_read read

theorem isWithin_of_pixels {value : String} {x : Finite} (found : Length.pixels? value = some x) : x.IsWithin := by
  unfold Length.pixels? at found
  split at found
  · split at found
    · exact isWithin_of_finite found
    · cases found
  · cases found

theorem stepKey_eq (limit : Int) (amount steps : Finite) : Scale.stepKey limit amount steps =
    match halfSteps.lookup steps.value with
    | some key => key
    | none =>
      if steps.value = steps.truncated ∧ 1 ≤ steps.truncated ∧ steps.truncated ≤ limit then
        toString steps.truncated
      else "[" ++ Length.finiteText amount ++ "]" := by
  have half (n : Rat) : 2 * steps.value = n ↔ steps.value = n / 2 := by
    constructor
    · intro same
      linarith
    · intro same
      linarith
  unfold Scale.stepKey
  rw [steps.whole_eq]
  simp only [half, halfSteps, List.lookup_cons, List.lookup_nil]
  by_cases first : steps.value = 1 / 2
  · simp only [if_pos first, beq_iff_eq.mpr first]
  by_cases second : steps.value = 3 / 2
  · simp only [if_neg first, beq_false_of_ne first, if_pos second, beq_iff_eq.mpr second]
  by_cases third : steps.value = 5 / 2
  · simp only [if_neg first, beq_false_of_ne first, if_neg second, beq_false_of_ne second, if_pos third,
      beq_iff_eq.mpr third]
  by_cases fourth : steps.value = 7 / 2
  · simp only [if_neg first, beq_false_of_ne first, if_neg second, beq_false_of_ne second, if_neg third,
      beq_false_of_ne third, if_pos fourth, beq_iff_eq.mpr fourth]
  simp only [if_neg first, beq_false_of_ne first, if_neg second, beq_false_of_ne second, if_neg third,
    beq_false_of_ne third, if_neg fourth, beq_false_of_ne fourth]
  by_cases whole : steps.value = steps.truncated
  · simp only [eq_true whole, if_true, true_and]
  · simp only [eq_false whole, if_false, false_and]

/-- A number of the range has a quarter there. -/
theorem exists_quarter {x : Finite} (within : x.IsWithin) :
    ∃ steps, quotient (.finite x) Scale.standard.unit = .ok (.finite steps) ∧
      Scale.steps (.finite x) Scale.standard.unit = .ok (.finite steps) := by
  have unit : (⟨false, 4, 0⟩ : Finite).value = 4 := by simp [Finite.value, Finite.magnitude, power]
  have divisor : (⟨false, 4, 0⟩ : Finite).value ≠ 0 := by
    rw [unit]
    norm_num
  have fewer : |x.value / (⟨false, 4, 0⟩ : Finite).value| ≤ Finite.largest := by
    rw [unit, abs_div, x.abs_value, Nat.abs_ofNat]
    have positive := x.magnitude_nonneg
    have limit : x.magnitude ≤ Finite.largest := within
    linarith
  obtain ⟨steps, own⟩ := Binary64.exists_ofRat (x.negative != false) fewer
  refine ⟨steps, ?_, ?_⟩
  · rw [← own]
    exact quotient_finite divisor
  · rw [← own]
    exact if_neg divisor

theorem scaleKey_standard {x : Finite} (within : x.IsWithin) :
    ∃ key, scaleKey .standard (.finite x) = .ok key ∧ Scale.standard.key (.finite x) = .ok key := by
  unfold scaleKey Scale.key
  simp only [equals_finite, Int.cast_zero, Int.cast_one, decide_eq_true_eq]
  by_cases zero : x.value = 0
  · exact ⟨"0", if_pos zero, if_pos zero⟩
  by_cases one : x.value = 1
  · refine ⟨"px", ?_, ?_⟩
    · rw [if_neg zero, if_pos one]
      rfl
    · rw [if_neg zero, if_pos one]
  obtain ⟨steps, checked, own⟩ := exists_quarter within
  refine ⟨Scale.stepKey Scale.standard.limit x steps, ?_, ?_⟩
  · rw [if_neg zero, if_neg one, checked, bind_ok, stepKey_eq]
    simp only [Binary64.finite?, Option.bind_some]
    split
    · rfl
    · simp only [integer_finite, bind_ok, equals_finite, decide_eq_true_eq]
      split
      · next small =>
        have limit : steps.truncated ≤ 96 := small.2.2
        exact @written_of_lt steps.truncated 7 (by omega) (by decide)
      · rw [pixelText_finite within]
        rfl
  · rw [if_neg zero, if_neg one, own]

@[simp] theorem lengthKey_eq (value : String) : lengthKey value = .ok (Output.lengthKey value) := by
  unfold lengthKey Output.lengthKey Scale.key?
  rw [pixels?_eq, bind_ok]
  cases found : Length.pixels? value with
  | none => rfl
  | some x =>
    obtain ⟨key, own, same⟩ := scaleKey_standard (isWithin_of_pixels found)
    simp [own, same, Except.toOption]

/-! Opacities, radii and line heights. -/

def opacityToken? (value : String) : Checked (Option String) := do
  match ← finite? value.toList with
  | none => return some (Literal.value "opacity" value)
  | some x =>
    if x.value < 0 ∨ 1 < x.value then return some (Literal.value "opacity" value)
    else if x.value = 1 then return none
    else
      let percent ← integer Finite.floor (sum (product (.finite x) ⟨false, 100, 0⟩) ⟨false, 1, -1⟩)
      if opacityScale.contains percent then return some ("opacity-" ++ toString percent)
      else return some (Literal.value "opacity" value)

def isFullRadius (value : String) : Checked Bool :=
  match pixelNumeral? value.toList with
  | some (digits, []) => do
    let x ← number digits
    return reaches x (.ofInt 50)
  | _ => return false

def lineHeightName? (value : String) : Checked (Option String) :=
  match Length.numeral? value.toList with
  | some (digits, []) => do
    let x ← number digits
    let short ← rounded x 3
    let text ← plainText short
    return lineHeightNames.lookup text
  | _ => return none

theorem integer_percentage {x : Finite} (part : 0 ≤ x.value ∧ x.value ≤ 1) :
    integer Finite.floor (sum (product (.finite x) ⟨false, 100, 0⟩) ⟨false, 1, -1⟩) = .ok (percentage x) := by
  have hundred : (⟨false, 100, 0⟩ : Finite).value = 100 := by simp [Finite.value, Finite.magnitude, power]
  have half : (⟨false, 1, -1⟩ : Finite).value = 1 / 2 := by simp [Finite.value, Finite.magnitude, power]
  have hundredfold : |x.value * (⟨false, 100, 0⟩ : Finite).value| ≤ (100 : Nat) := by
    rw [hundred, abs_of_nonneg (by linarith)]
    push_cast
    linarith
  obtain ⟨y, multiplied, -, size⟩ := Binary64.exists_ofRat_le (x.negative != false) hundredfold (by decide)
  rw [← y.abs_value] at size
  have total : |y.value + (⟨false, 1, -1⟩ : Finite).value| ≤ (101 : Nat) := by
    rw [half]
    refine le_trans (abs_add_le _ _) ?_
    push_cast at size ⊢
    norm_num
    linarith
  obtain ⟨z, added, -, -⟩ := Binary64.exists_ofRat_le (y.negative && false) total (by decide)
  have first : x.mul ⟨false, 100, 0⟩ = .finite y := multiplied
  have second : y.add ⟨false, 1, -1⟩ = .finite z := added
  unfold percentage
  simp only [product, first, sum, second, integer_finite]

@[simp] theorem opacityToken?_eq (value : String) : opacityToken? value = .ok (Utility.opacityToken? value) := by
  unfold opacityToken? Utility.opacityToken?
  rw [finite?_eq, bind_ok]
  cases Decimal.read? value.toList with
  | none => rfl
  | some x =>
    cases x with
    | nan => rfl
    | infinite negative => rfl
    | finite x =>
      simp only [Option.bind_some, Binary64.finite?]
      split
      · rfl
      · next part =>
        have part : 0 ≤ x.value ∧ x.value ≤ 1 := by simpa [not_or] using part
        split
        · rfl
        · rw [integer_percentage part, bind_ok]
          split
          · rfl
          · rfl

theorem isNumeral_of_pixelNumeral {s digits rest : List Char} (found : pixelNumeral? s = some (digits, rest)) :
    Decimal.IsNumeral digits := by
  unfold pixelNumeral? at found
  split at found
  · obtain ⟨⟨plain, after⟩, own, unit⟩ := Option.bind_eq_some_iff.mp found
    obtain ⟨rest, -, same⟩ := Option.map_eq_some_iff.mp unit
    cases same
    exact Decimal.isNumeral_of_numeral own
  · cases found

@[simp] theorem isFullRadius_eq (value : String) : isFullRadius value = .ok (Utility.isFullRadius value) := by
  unfold isFullRadius Utility.isFullRadius
  rcases found : pixelNumeral? value.toList with _ | ⟨digits, _ | ⟨c, rest⟩⟩
  · rfl
  · have numeral := isNumeral_of_pixelNumeral found
    obtain ⟨x, read⟩ := numeral.exists_read
    simp only [number_of_read read, bind_ok, read]
    cases Decimal.ranged_of_figures numeral.figures read with
    | infinite => rfl
    | finite sign within => rfl
  · rfl

@[simp] theorem lineHeightName?_eq (value : String) :
    lineHeightName? value = .ok (Utility.lineHeightName? value) := by
  unfold lineHeightName? Utility.lineHeightName?
  rcases found : Length.numeral? value.toList with _ | ⟨digits, _ | ⟨c, rest⟩⟩
  · rfl
  · have numeral := Decimal.isNumeral_of_numeral found
    obtain ⟨x, read⟩ := numeral.exists_read
    simp only [number_of_read read, bind_ok, read]
    cases Decimal.ranged_of_figures numeral.figures read with
    | infinite => rfl
    | finite sign within =>
      obtain ⟨rounding, rounded⟩ := rounded_finite within 3
      simp only [rounding, bind_ok, plainText_finite rounded]
      rfl
  · rfl

end Clipping.Checked

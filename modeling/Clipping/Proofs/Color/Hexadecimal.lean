import Clipping.Color.Notation
import Clipping.Proofs.Number.Rounding
import Clipping.Proofs.Text.Balanced
import Clipping.Proofs.Text.Lowered
import Mathlib.Data.Bool.AllAny

/-! Canonical colours are written with three or four bytes, each of which is two hexadecimal digits in
lower case and reads back. An alpha below one counts at most 255 however the product is rounded, so it
is a byte. -/
namespace Clipping.Color

open Text

/-! Alphas. -/

theorem value_255 : (⟨false, 255, 0⟩ : Finite).value = 255 := by
  simp [Finite.value, Finite.magnitude, power]

theorem toNat_nearestInt_of_negative {x : Finite} (negative : x.negative = true) :
    x.nearestInt.toNat = 0 := by
  unfold Finite.nearestInt
  simp [negative]

theorem Alpha.part_le {alpha : Binary64} {n : Nat} (parts : Alpha.ofNumber alpha = .part n) : n ≤ 255 := by
  cases alpha with
  | nan => cases parts
  | infinite negative => cases parts
  | finite x =>
    simp only [Alpha.ofNumber, Finite.mul, value_255] at parts
    split at parts
    · cases parts
    · next below =>
      split at parts
      · next y product =>
        obtain rfl := Alpha.part.inj parts
        rcases le_or_gt 0 x.value with positive | negative
        · have bounded : |x.value * 255| ≤ (255 : Nat) := by
            rw [abs_of_nonneg (by linarith)]
            push_cast
            linarith
          obtain ⟨z, rounded, -, size⟩ := Binary64.exists_ofRat_le _ bounded (by decide)
          obtain rfl := Binary64.finite.inj (product.symm.trans rounded)
          have limit := Finite.nearestInt_le size
          omega
        · have ranged := Binary64.ranged_ofRat (x.negative != false) (x.value * 255)
          rw [product, if_neg (by linarith)] at ranged
          have sign : y.negative = true := by
            rw [ranged.negative, decide_eq_true_iff]
            linarith
          rw [toNat_nearestInt_of_negative sign]
          exact Nat.zero_le 255
      · cases parts

/-! Digits. -/

def lowDigits : List Char := [
  '0', '1', '2', '3', '4', '5', '6', '7', '8', '9', 'a', 'b', 'c', 'd', 'e', 'f']

theorem hexDigit_mem {n : Nat} (bounded : n < 16) : hexDigit n ∈ lowDigits :=
  (by decide : ∀ n < 16, hexDigit n ∈ lowDigits) n bounded

theorem hexValue_hexDigit {n : Nat} (bounded : n < 16) : hexValue? (hexDigit n) = some n :=
  (by decide : ∀ n < 16, hexValue? (hexDigit n) = some n) n bounded

theorem toNat_of_isHexadecimal {c : Char} (digit : isHexadecimal c = true) : c.toNat ≤ 0x66 := by
  unfold isHexadecimal hexValue? at digit
  split at digit
  · next own =>
    simp only [Char.isDigit, Bool.and_eq_true, decide_eq_true_eq] at own
    have high : c.toNat ≤ 0x39 := own.2
    omega
  · split at digit
    · next own =>
      simp only [Bool.and_eq_true, decide_eq_true_eq] at own
      exact own.2
    · split at digit
      · next own =>
        simp only [Bool.and_eq_true, decide_eq_true_eq] at own
        have high : c.toNat ≤ 0x46 := own.2
        omega
      · cases digit

theorem toLower_mem {c : Char} (digit : isHexadecimal c = true) : c.toLower ∈ lowDigits := by
  have each : ∀ n < 0x67, isHexadecimal (Char.ofNat n) = true → (Char.ofNat n).toLower ∈ lowDigits := by decide
  have own := each c.toNat (Nat.lt_succ_of_le (toNat_of_isHexadecimal digit))
  rw [Char.ofNat_toNat] at own
  exact own digit

/-! Bytes. -/

theorem hexByte_mem {n : Nat} (bounded : n ≤ 255) : ∀ c ∈ hexByte n, c ∈ lowDigits := by
  have high : n / 16 < 16 := by omega
  have low : n % 16 < 16 := by omega
  simp [hexByte, hexDigit_mem high, hexDigit_mem low]

theorem hexadecimalNat_hexByte {n : Nat} (bounded : n ≤ 255) : hexadecimalNat (hexByte n) = n := by
  have high := hexValue_hexDigit (by omega : n / 16 < 16)
  have low := hexValue_hexDigit (by omega : n % 16 < 16)
  simp only [hexadecimalNat, hexByte, List.filterMap_cons_some high, List.filterMap_cons_some low,
    List.filterMap_nil, List.foldl_cons, List.foldl_nil]
  omega

/-- The bytes that digits write, two digits each. -/
def bytesOf : List Char → List Nat
  | high :: low :: rest => hexadecimalNat [high, low] :: bytesOf rest
  | _ => []

theorem bytesOf_flatMap_hexByte {bytes : List Nat} (bounded : ∀ n ∈ bytes, n ≤ 255) :
    bytesOf (bytes.flatMap hexByte) = bytes := by
  induction bytes with
  | nil => rfl
  | cons n bytes ih =>
    obtain ⟨own, others⟩ := List.forall_mem_cons.mp bounded
    have first := hexadecimalNat_hexByte own
    rw [List.flatMap_cons, hexByte, List.cons_append, List.cons_append, List.nil_append, bytesOf, ih others]
    exact congrArg (· :: bytes) first

theorem length_flatMap_hexByte (bytes : List Nat) : (bytes.flatMap hexByte).length = 2 * bytes.length := by
  induction bytes with
  | nil => rfl
  | cons n bytes ih =>
    rw [List.flatMap_cons, List.length_append, ih, List.length_cons, hexByte]
    simp only [List.length_cons, List.length_nil]
    omega

/-! Colours. -/

/-- The mark, and the digits of three or four bytes. -/
def IsCanonical (hex : List Char) : Prop :=
  ∃ digits, hex = '#' :: digits ∧ (digits.length = 6 ∨ digits.length = 8) ∧ ∀ c ∈ digits, c ∈ lowDigits

def Rgb.channels (c : Rgb) : List Nat := [min c.red 255, min c.green 255, min c.blue 255]

theorem Rgb.channels_le (c : Rgb) : ∀ n ∈ c.channels, n ≤ 255 := by
  simp [channels]

/-- A colour is written as the bytes of its channels, and the byte of its alpha if it has parts. -/
theorem Rgb.hex?_eq (c : Rgb) : c.hex? =
    match c.alpha.map fun alpha => Alpha.read alpha.1 alpha.2 with
    | none | some .opaqueAlpha => some ('#' :: c.channels.flatMap hexByte)
    | some .malformed => none
    | some (.part n) => some ('#' :: (c.channels ++ [n]).flatMap hexByte) := by
  unfold hex?
  cases c.alpha with
  | none => rfl
  | some alpha =>
    simp only [Option.map_some]
    cases Alpha.read alpha.1 alpha.2 with
    | malformed => rfl
    | opaqueAlpha => rfl
    | part n => rfl

theorem Alpha.part_le_of_read {digits : List Char} {percent : Bool} {n : Nat}
    (parts : Alpha.read digits percent = .part n) : n ≤ 255 := by
  unfold Alpha.read at parts
  split at parts
  · cases parts
  · exact Alpha.part_le parts
  · exact Alpha.part_le parts

theorem Rgb.exists_bytes {c : Rgb} {hex : List Char} (written : c.hex? = some hex) :
    ∃ more, hex = '#' :: (c.channels ++ more).flatMap hexByte ∧ more.length ≤ 1 ∧
      ∀ n ∈ c.channels ++ more, n ≤ 255 := by
  rw [hex?_eq] at written
  split at written
  · cases written
    exact ⟨[], rfl, by decide, c.channels_le⟩
  · cases written
    exact ⟨[], rfl, by decide, c.channels_le⟩
  · cases written
  · next n parts =>
    cases written
    obtain ⟨alpha, -, own⟩ := Option.map_eq_some_iff.mp parts
    refine ⟨[n], rfl, by simp, List.forall_mem_append.mpr ⟨c.channels_le, ?_⟩⟩
    exact List.forall_mem_singleton.mpr (Alpha.part_le_of_read own)

theorem isCanonical_hex {c : Rgb} {hex : List Char} (written : c.hex? = some hex) : IsCanonical hex := by
  obtain ⟨more, rfl, short, bounded⟩ := c.exists_bytes written
  refine ⟨_, rfl, ?_, fun d member => ?_⟩
  · have three : c.channels.length = 3 := rfl
    rw [length_flatMap_hexByte, List.length_append]
    omega
  · obtain ⟨n, own, digit⟩ := List.mem_flatMap.mp member
    exact hexByte_mem (bounded n own) d digit

theorem isCanonical_hexNotation {s hex : List Char} (written : hexNotation? s = some hex) : IsCanonical hex := by
  unfold hexNotation? at written
  split at written
  · next digits =>
    split at written
    · next all =>
      have low : ∀ d ∈ digits.map Char.toLower, d ∈ lowDigits := by
        intro d member
        obtain ⟨c, own, rfl⟩ := List.mem_map.mp member
        exact toLower_mem (List.all_eq_true.mp all c own)
      simp only at written
      split at written
      · next three =>
        cases written
        refine ⟨_, rfl, .inl ?_, fun d member => ?_⟩
        · simp [List.length_flatMap, Function.comp_def, three]
        · obtain ⟨c, own, twice⟩ := List.mem_flatMap.mp member
          obtain rfl : d = c := by simpa using twice
          exact low d own
      · next six =>
        cases written
        exact ⟨_, rfl, .inl (by rw [List.length_map, six]), low⟩
      · next eight =>
        cases written
        exact ⟨_, rfl, .inr (by rw [List.length_map, eight]), low⟩
      · cases written
    · cases written
  · cases written

theorem isCanonical_rgbHex {value hex : String} (found : rgbHex? value = some hex) : IsCanonical hex.toList := by
  obtain ⟨c, -, own⟩ := Option.bind_eq_some_iff.mp found
  obtain ⟨chars, written, rfl⟩ := Option.map_eq_some_iff.mp own
  rw [String.toList_ofList]
  exact isCanonical_hex written

theorem isCanonical_canonical {value hex : String} (found : canonical? value = some hex) :
    IsCanonical hex.toList := by
  unfold canonical? at found
  simp only at found
  split at found
  · exact isCanonical_rgbHex found
  · obtain ⟨chars, written, rfl⟩ := Option.map_eq_some_iff.mp found
    rw [String.toList_ofList]
    exact isCanonical_hexNotation written

theorem canonical?_of_isCanonical {hex : String} (canonical : IsCanonical hex.toList) :
    canonical? hex = some hex := by
  obtain ⟨digits, chars, sized, low⟩ := canonical
  have each : ∀ c ∈ lowDigits, isHexadecimal c = true ∧ c.toLower = c ∧ isBlank c = false :=
    List.all_iff_forall_prop.mp (by decide)
  have unbroken : ∀ c ∈ '#' :: digits, isBlank c = false :=
    List.forall_mem_cons.mpr ⟨rfl, fun c member => (each c (low c member)).2.2⟩
  have all : digits.all isHexadecimal = true := List.all_eq_true.mpr fun c member => (each c (low c member)).1
  have kept : digits.map Char.toLower = digits :=
    (List.map_congr_left fun c member => (each c (low c member)).2.1).trans (List.map_id digits)
  have read : hexNotation? ('#' :: digits) = some ('#' :: digits) := by
    rcases sized with six | eight
    · simp [hexNotation?, all, kept, six]
    · simp [hexNotation?, all, kept, eight]
  have other : isRgb ('#' :: digits) = false := rfl
  rw [canonical?, chars, trim_of_unbroken unbroken]
  simp only [other, Bool.false_eq_true, if_false, read, Option.map_some]
  rw [← chars, String.ofList_toList]

theorem isRgb_of_opening {s rest : List Char} (opened : Rgb.opening? s = some rest) : isRgb s = true := by
  unfold Rgb.opening? at opened
  split at opened
  · next r g b rest =>
    split at opened
    · next named => simpa [isRgb] using named
    · cases opened
  · cases opened

/-- What has a canonical form in the notation of channels has it in either notation. -/
theorem canonical?_of_rgbHex {value hex : String} (found : rgbHex? value = some hex) :
    canonical? value = some hex := by
  obtain ⟨c, read, -⟩ := Option.bind_eq_some_iff.mp found
  obtain ⟨rest, opened, -⟩ := Option.bind_eq_some_iff.mp read
  rw [canonical?]
  simp only [isRgb_of_opening opened, if_true, found]

theorem isPlain_canonical {value hex : String} (found : canonical? value = some hex) : IsPlain hex := by
  have plain : ∀ c ∈ lowDigits, isPlain c = true := List.all_eq_true.mp (by decide)
  obtain ⟨digits, chars, -, low⟩ := isCanonical_canonical found
  intro c member
  rw [chars] at member
  rcases List.mem_cons.mp member with rfl | digit
  · rfl
  · exact plain c (low c digit)

end Clipping.Color

import Clipping.Proofs.Capture.Kept
import Clipping.Proofs.Capture.Positions

/-! What is inherited is left out. The text of an element is compared with that of its parent as
the page answers both, before a colour is rewritten. So a record says of text what the parent
does not, unless the element spells the parent's hexadecimal colour in channels. -/
namespace Clipping

open Markup

variable {κ : Type}

namespace Sieve

variable {s : Sieve} {tag : String} {values : String → String} {parent : Option (String → String)}

/-- The value is a colour in channels, and the other one is its hexadecimal form. -/
def Respells (value hex : String) : Prop :=
  Color.isRgb value.toList = true ∧ Color.rgbHex? value = some hex

/-- A text that is declared is not that of the parent, and what is recorded of it only is where
the colour of the parent is spelled again. -/
theorem declared?_inherited {above : String → String} {p w : String} (text : p ∈ Property.text)
    (declared : s.declared? tag values (some above) p = some w) :
    values p ≠ above p ∧ (w = above p ↔ p = "color" ∧ Respells (values p) (above p)) := by
  have textual : ∀ p ∈ Property.text, p ∈ Property.colored → p = "color" := by decide
  obtain ⟨rfl, -, stated, -⟩ := declared?_eq_some declared
  have apart : values p ≠ above p := fun same => stated (.inr (.inr ⟨text, above, rfl, same.symm⟩))
  refine ⟨apart, ?_⟩
  constructor
  · intro same
    rcases recorded_cases p (values p) with plain | ⟨colored, channels, found⟩
    · exact absurd (plain.symm.trans same) apart
    · exact ⟨textual p text colored, channels, found.trans (congrArg some same)⟩
  · rintro ⟨rfl, channels, found⟩
    have colored : "color" ∈ Property.colored := by decide
    simp [recorded, colored, channels, found]

end Sieve

structure Record.TellsText (resolve : Resolver κ) (above own : Visit κ) (r : Record) : Prop where
  different : ∀ p ∈ Property.text, ∀ w, r.styles.get? p = some w →
    resolve.values own.head.key p ≠ resolve.values above.head.key p
  /-- Where the recorded value is what the page answers for the parent. -/
  repeats_iff : ∀ p ∈ Property.text, ∀ w, r.styles.get? p = some w →
    (w = resolve.values above.head.key p ↔
      p = "color" ∧ Sieve.Respells (resolve.values own.head.key p) (resolve.values above.head.key p))

/-- Any element but the root has a parent that the walk met before it, and its record repeats no
text of the parent, apart from a colour in hexadecimal that the element spells in channels. -/
theorem inherited_left_out (config : Config) (resolve : Resolver κ) (e : Element κ) {i : Nat} {r : Record}
    (found : (Record.ofElement config resolve e)[i]? = some r) (below : i ≠ 0) :
    ∃ own above : Visit κ, (e.walk config.overlayStem)[i]? = some own ∧
      (e.walk config.overlayStem)[above.index]? = some above ∧
      own.parent = some above.index ∧ above.index < i ∧ r.TellsText resolve above own := by
  obtain ⟨own, met, rfl, -⟩ := Record.getElem?_ofElement found
  rcases Element.parent_walk met with ⟨root, -⟩ | ⟨j, above, parent, before, earlier, -⟩
  · exact absurd root below
  obtain rfl : above.index = j := (Element.getElem?_visits earlier).1
  have declared : ∀ p ∈ Property.text, ∀ w,
      (Record.ofVisit config resolve (e.walk config.overlayStem) own).styles.get? p = some w →
        Sieve.standard.declared? own.head.tag (resolve.values own.head.key)
          (some (resolve.values above.head.key)) p = some w := by
    intro p text w own
    have other : p ≠ "display" := by
      rintro rfl
      exact absurd text (by decide)
    have tracked : p ∈ Sieve.standard.tracked :=
      (by decide : ∀ p ∈ Property.text, p ∈ Property.tracked) p text
    simp only [Record.ofVisit, parent, Option.bind_some, earlier, Option.map_some] at own
    rwa [Sieve.get?_compare_of_ne tracked other] at own
  exact ⟨own, above, met, earlier, parent, before,
    { different := fun p text w own => (Sieve.declared?_inherited text (declared p text w own)).1
      repeats_iff := fun p text w own => (Sieve.declared?_inherited text (declared p text w own)).2 }⟩

def markedWord : Element Nat := .new 0 "p" .empty (.element (.new 1 "b" .empty) .nil .nil)

def tinted (color : String) : Resolver Nat := fun key property =>
  if property = "color" then (if key = 1 then color else "#ff0000") else ""

theorem inherited_left_out_tinted : 1 ≠ 0 ∧
    ∃ r, (Record.ofElement .standard (tinted "blue") markedWord)[1]? = some r ∧
      r.styles.get? "color" = some "blue" ∧
      ∃ own above : Visit Nat, (markedWord.walk Config.standard.overlayStem)[1]? = some own ∧
        (markedWord.walk Config.standard.overlayStem)[above.index]? = some above ∧
        own.parent = some above.index ∧ above.index < 1 ∧ r.TellsText (tinted "blue") above own := by
  refine ⟨by decide, _, rfl, ?_, ?_⟩
  · simp only [Record.ofVisit]
    rw [Sieve.get?_compare]
    decide +kernel
  · exact inherited_left_out .standard (tinted "blue") markedWord rfl (by decide)

/-- A word that spells the colour of its paragraph in channels is recorded in that very colour. -/
theorem respelled_color_repeated :
    "color" ∈ Property.text ∧
    (markedWord.walk Config.standard.overlayStem).map (fun v => (v.head.key, v.parent)) =
      [(0, none), (1, some 0)] ∧
    ∃ r, (Record.ofElement .standard (tinted "rgb(255, 0, 0)") markedWord)[1]? = some r ∧
      r.styles.get? "color" = some ((tinted "rgb(255, 0, 0)").values 0 "color") := by
  refine ⟨by decide, by decide, _, rfl, ?_⟩
  simp only [Record.ofVisit]
  rw [Sieve.get?_compare]
  decide +kernel

end Clipping

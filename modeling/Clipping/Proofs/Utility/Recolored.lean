import Clipping.Proofs.Capture.Kept
import Clipping.Proofs.Text.Joined
import Clipping.Proofs.Utility.Emitted

/-! Colours in their canonical form. It is its own, and has the tokens of every spelling, so it makes no
difference to them whether a colour was recorded in hexadecimal. -/
namespace Clipping

namespace Color

theorem token_of_canonical {v hex : String} (found : canonical? v = some hex) (stem : String) :
    token v stem = token hex stem := by
  have own := canonical?_of_isCanonical (isCanonical_canonical found)
  unfold token
  rw [found, own]

theorem token_of_none {v : String} (unread : canonical? v = none) (stem : String) :
    token v stem = ⟨stem ++ "-[" ++ String.intercalate "_" (split v) ++ "]", none⟩ := by
  unfold token
  rw [unread, ← Text.escaped_eq]
  simp [Literal.value, Literal.bracketed, ← String.toList_inj]

/-- A colour has the token of the form in which it is recorded. -/
theorem token_recorded (p v stem : String) : token (Sieve.recorded p v) stem = token v stem := by
  rcases Sieve.recorded_cases p v with same | ⟨-, -, found⟩
  · rw [same]
  · exact (token_of_canonical (canonical?_of_rgbHex found) stem).symm

end Color

namespace Utility

theorem emitted_colored_congr {d other : Declarations} {stem property : String}
    (same : (d.get? property).map (Color.token · stem) = (other.get? property).map (Color.token · stem)) :
    (colored d stem property).emitted = (colored other stem property).emitted := by
  unfold colored declared
  cases first : d.get? property with
  | none =>
    cases second : other.get? property with
    | none => rfl
    | some w => simp [first, second] at same
  | some v =>
    cases second : other.get? property with
    | none => simp [first, second] at same
    | some w =>
      rw [first, second] at same
      simp only [Output.emitted_color, Option.some.inj same]

theorem tokens_recolored (d : Declarations) {p : String} (member : p ∈ colorRule.properties) {v w : String}
    (same : ∀ stem, Color.token v stem = Color.token w stem) :
    (Compiler.builtin.compile (d.set p v)).tokens = (Compiler.builtin.compile (d.set p w)).tokens := by
  have known : colorRule ∈ builtinRules := by simp [builtinRules]
  have applies (u : String) : colorRule.applies (d.set p u) = true :=
    List.any_eq_true.mpr ⟨p, member, by simp [Assoc.contains]⟩
  have emitted : (colorRule.emit (d.set p v)).emitted = (colorRule.emit (d.set p w)).emitted := by
    have each (stem property : String) : (colored (d.set p v) stem property).emitted =
        (colored (d.set p w) stem property).emitted := by
      refine emitted_colored_congr ?_
      rw [Assoc.get?_set, Assoc.get?_set]
      split
      · exact congrArg some (same stem)
      · rfl
    simp only [colorRule, Output.emitted_append, each]
  obtain ⟨before, after, own, other⟩ := compile_apart known member
    ((Assoc.erase_set d p v).trans (Assoc.erase_set d p w).symm) (applies v) (applies w)
  simp only [Output.tokens, own, other, Output.emitted_append, emitted]

/-- A canonical form is written in low digits, is its own, and has the tokens of the colour; a value
without one is a literal. A colour has the same tokens however it was recorded. -/
theorem colors_canonical (v : String) :
    (∀ hex, Color.canonical? v = some hex → Color.IsCanonical hex.toList ∧ Color.canonical? hex = some hex ∧
      ∀ stem, Color.token v stem = Color.token hex stem) ∧
    (Color.canonical? v = none →
      ∀ stem, Color.token v stem = ⟨stem ++ "-[" ++ String.intercalate "_" (split v) ++ "]", none⟩) ∧
    ∀ (d : Declarations), ∀ p ∈ ["color", "background-color"],
      (Compiler.builtin.compile (d.set p (Sieve.recorded p v))).tokens =
        (Compiler.builtin.compile (d.set p v)).tokens := by
  refine ⟨fun hex found => ?_, Color.token_of_none, fun d p member => ?_⟩
  · have own := Color.isCanonical_canonical found
    exact ⟨own, Color.canonical?_of_isCanonical own, Color.token_of_canonical found⟩
  · have read : p ∈ colorRule.properties :=
      (by decide : ∀ p ∈ ["color", "background-color"], p ∈ colorRule.properties) p member
    exact tokens_recolored d read (Color.token_recorded p v)

/-- Mixed separators and a percentage, and a function that is none of the notations. -/
theorem colors_canonical_spelled :
    Color.canonical? "RGBA( 37,99\t235 / 50%)" = some "#2563eb80" ∧
    Color.canonical? "#2563eb80" = some "#2563eb80" ∧
    Color.canonical? " color( srgb\n1 ) " = none ∧
    Color.token " color( srgb\n1 ) " "bg" = ⟨"bg-[color(_srgb_1_)]", none⟩ ∧
    (Compiler.builtin.compile ((Assoc.ofList [("gap", "4px")]).set "color" "#2563eb80")).tokens =
      (Compiler.builtin.compile ((Assoc.ofList [("gap", "4px")]).set "color" "RGBA( 37,99\t235 / 50%)")).tokens := by
  have found : Color.canonical? "RGBA( 37,99\t235 / 50%)" = some "#2563eb80" := by decide +kernel
  have unread : Color.canonical? " color( srgb\n1 ) " = none := by decide +kernel
  have recorded : Sieve.recorded "color" "RGBA( 37,99\t235 / 50%)" = "#2563eb80" := by decide +kernel
  obtain ⟨canonical, -, alike⟩ := colors_canonical "RGBA( 37,99\t235 / 50%)"
  have literal := (colors_canonical " color( srgb\n1 ) ").2.1 unread "bg"
  refine ⟨found, (canonical _ found).2.1, unread, literal.trans (by decide +kernel), ?_⟩
  exact recorded ▸ alike (.ofList [("gap", "4px")]) "color" (by decide)

end Utility

end Clipping

import Clipping.Utility.Compiler

/-! Outputs that have a token at all. What a rule emits is put together from readings of
one property each, so whether it speaks is decided reading by reading. -/
namespace Clipping.Utility

namespace Output

def Speaks (o : Output) : Prop := o.emitted ≠ []

theorem tokens_eq_nil_iff (o : Output) : o.tokens = [] ↔ ¬o.Speaks := by
  unfold tokens Speaks
  cases o.emitted with
  | nil => simp
  | cons token rest => simp [List.eraseDups_cons]

@[simp] theorem not_speaks_none : ¬none.Speaks := by simp [Speaks]

@[simp] theorem speaks_append (a b : Output) : (a ++ b).Speaks ↔ a.Speaks ∨ b.Speaks := by
  simp only [Speaks, emitted_append, ne_eq, List.append_eq_nil_iff]
  exact Decidable.not_and_iff_not_or_not

@[simp] theorem speaks_join (outputs : List Output) :
    (join outputs).Speaks ↔ ∃ o ∈ outputs, o.Speaks := by
  induction outputs with
  | nil => simp [join]
  | cons o rest ih =>
    show (o ++ join rest).Speaks ↔ _
    rw [speaks_append, ih]
    simp

@[simp] theorem speaks_token (t : String) : (token t).Speaks ↔ t ≠ "" := by
  simp [Speaks, token]

@[simp] theorem speaks_fallback (t property value : String) (reason : Reason) :
    (fallback t property value reason).Speaks ↔ t ≠ "" := by
  simp [Speaks, fallback]

@[simp] theorem speaks_unmapped (t property value : String) :
    (unmapped t property value).Speaks ↔ t ≠ "" :=
  speaks_fallback t property value .unmappableValue

@[simp] theorem speaks_declaration (property value : String) : (declaration property value).Speaks := by
  simp [declaration, Literal.declaration]

@[simp] theorem speaks_color (stem property value : String) : (color stem property value).Speaks := by
  have written : (Color.token value stem).token ≠ "" := by
    unfold Color.token
    split
    · simp [Literal.value]
    · split <;> simp
  simp only [color]
  split
  · exact (speaks_token _).mpr written
  · exact (speaks_fallback _ _ _ _).mpr written

@[simp] theorem not_speaks_keyNote (property value : String) : ¬(keyNote property value).Speaks := by
  simp [Speaks, keyNote]

@[simp] theorem speaks_length (stem property value : String) : (length stem property value).Speaks := by
  simp [length]

@[simp] theorem speaks_ite (c : Prop) [Decidable c] (a b : Output) :
    (if c then a else b).Speaks ↔ if c then a.Speaks else b.Speaks := by
  split <;> rfl

end Output

open Output

/-! What is found in tables. -/

theorem Keywords.mem_of_lookup {table : Keywords} {value token : String}
    (found : table.lookup value = some token) : (value, token) ∈ table := by
  obtain ⟨before, after, parts, -⟩ := List.lookup_eq_some_iff.mp found
  simp [parts]

theorem mem_of_flowName {word token : String}
    (found : (directionNames.lookup word <|> wrapNames.lookup word) = some token) :
    (word, token) ∈ directionNames ++ wrapNames := by
  cases direction : directionNames.lookup word with
  | some other =>
    rw [direction] at found
    obtain rfl : other = token := Option.some.inj found
    exact List.mem_append_left _ (Keywords.mem_of_lookup direction)
  | none =>
    rw [direction] at found
    exact List.mem_append_right _ (Keywords.mem_of_lookup found)

theorem mem_of_lineHeightName {value token : String} (found : lineHeightName? value = some token) :
    ∃ factor, (factor, token) ∈ lineHeightNames := by
  unfold lineHeightName? at found
  split at found
  · split at found
    · exact ⟨_, Keywords.mem_of_lookup found⟩
    · cases found
  · cases found

/-- The token of an opacity is a literal, or names a percentage of the scale. -/
theorem opacityToken?_cases {value token : String} (found : opacityToken? value = some token) :
    token = Literal.value "opacity" value ∨ ∃ part ∈ opacityScale, token = "opacity-" ++ toString part := by
  unfold opacityToken? at found
  split at found
  · split at found
    · exact .inl (Option.some.inj found).symm
    · split at found
      · cases found
      · split at found
        · next listed => exact .inr ⟨_, List.contains_iff_mem.mp listed, (Option.some.inj found).symm⟩
        · exact .inl (Option.some.inj found).symm
  · exact .inl (Option.some.inj found).symm

/-! Readings. -/

theorem speaks_lookup {table : Keywords} (named : ∀ entry ∈ table, entry.2 ≠ "") {value token : String}
    (found : table.lookup value = some token) : (Output.token token).Speaks :=
  (speaks_token token).mpr (named _ (Keywords.mem_of_lookup found))

variable {d : Declarations} {property : String}

theorem speaks_declared {f : String → Output} :
    (declared d property f).Speaks ↔ ∃ v, d.get? property = some v ∧ (f v).Speaks := by
  unfold declared
  cases d.get? property with
  | none => simp
  | some v => simp

/-- A reading that always speaks does so where its property is declared. -/
theorem speaks_reading {f : String → Output} (always : ∀ v, (f v).Speaks) :
    (declared d property f).Speaks ↔ ∃ v, d.get? property = some v := by
  rw [speaks_declared]
  exact ⟨fun ⟨v, found, _⟩ => ⟨v, found⟩, fun ⟨v, found⟩ => ⟨v, found, always v⟩⟩

theorem speaks_keyword {table : Keywords} {literal value : String} (written : literal ≠ "") :
    (keyword table literal property value).Speaks := by
  unfold keyword
  split
  · next token _ =>
    by_cases empty : token = ""
    · simpa [empty] using written
    · simp [empty]
  · simpa using written

@[simp] theorem speaks_mapped {table : Keywords} :
    (mapped d property table).Speaks ↔ ∃ v, d.get? property = some v :=
  speaks_reading fun _ => speaks_keyword (by simp [Literal.declaration])

@[simp] theorem speaks_mappedAfter {stem : String} {table : Keywords} :
    (mappedAfter stem d property table).Speaks ↔ ∃ v, d.get? property = some v :=
  speaks_reading fun _ => speaks_keyword (by simp [Literal.value])

@[simp] theorem speaks_verbatim : (verbatim d property).Speaks ↔ ∃ v, d.get? property = some v :=
  speaks_reading fun v => speaks_declaration property v

@[simp] theorem speaks_colored {stem : String} :
    (colored d stem property).Speaks ↔ ∃ v, d.get? property = some v :=
  speaks_reading fun v => speaks_color stem property v

@[simp] theorem speaks_measured {stem : String} {names : Keywords} :
    (measured d stem property names).Speaks ↔ ∃ v, d.get? property = some v := by
  refine speaks_reading fun v => ?_
  split
  · simp
  · simp

end Clipping.Utility

import Clipping.Text.Blank

/-! Searching a text from its start. What a search leaves is always an end of the text. -/
namespace Clipping.Text

/-- The text through the first `c`, and what follows it. -/
def through? (c : Char) : List Char → Option (List Char × List Char)
  | [] => none
  | d :: s => if d = c then some ([d], s) else (through? c s).map fun (t, rest) => (d :: t, rest)

/-- What follows the first place where `here` matches. -/
def afterFirst? (here : List Char → Option (List Char)) : List Char → Option (List Char)
  | [] => none
  | c :: s =>
    match here (c :: s) with
    | some rest => some rest
    | none => afterFirst? here s

theorem through?_eq_append {c : Char} {s t rest : List Char} (h : through? c s = some (t, rest)) :
    s = t ++ rest := by
  induction s generalizing t rest with
  | nil => simp [through?] at h
  | cons d s ih =>
    unfold through? at h
    split at h
    · simp only [Option.some.injEq, Prod.mk.injEq] at h
      simp [← h.1, ← h.2]
    · obtain ⟨⟨t', rest'⟩, found, same⟩ := Option.map_eq_some_iff.mp h
      simp only [Prod.mk.injEq] at same
      simp [← same.1, ← same.2, ih found]

theorem through?_suffix {c : Char} {s t rest : List Char} (h : through? c s = some (t, rest)) :
    rest <:+ s := ⟨t, (through?_eq_append h).symm⟩

theorem through?_shorter {c : Char} {s t rest : List Char} (h : through? c s = some (t, rest)) :
    rest.length < s.length := by
  induction s generalizing t rest with
  | nil => simp [through?] at h
  | cons d s ih =>
    unfold through? at h
    split at h
    · cases h; simp
    · obtain ⟨⟨t', rest'⟩, found, same⟩ := Option.map_eq_some_iff.mp h
      cases same
      exact Nat.lt_succ_of_lt (ih found)

theorem afterFirst?_suffix {here : List Char → Option (List Char)}
    (ends : ∀ s rest, here s = some rest → rest <:+ s) {s rest : List Char}
    (h : afterFirst? here s = some rest) : rest <:+ s := by
  induction s with
  | nil => simp [afterFirst?] at h
  | cons c s ih =>
    unfold afterFirst? at h
    split at h
    · next found => exact ends _ _ (found.trans h)
    · exact (ih h).trans (List.suffix_cons c s)

theorem after?_suffix {start s rest : List Char} (h : after? start s = some rest) : rest <:+ s :=
  ⟨start, (after?_eq_some.mp h).symm⟩

theorem dropBlank_suffix (s : List Char) : dropBlank s <:+ s := List.dropWhile_suffix isBlank

end Clipping.Text

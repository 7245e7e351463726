import Clipping.Proofs.Color.Hexadecimal
import Clipping.Proofs.Number.Spelled
import Clipping.Proofs.Utility.Composition
import Clipping.Proofs.Utility.Sides
import Mathlib.Data.List.TakeWhile

/-! What tokens are made of. A token is put together from names of tables, spelled numbers and
colours, which are plain, and from literals of values. What is true of both kinds of pieces and of
texts joined is so true of every token, whatever rule emits it. -/
namespace Clipping.Utility

/-- A text put together from plain texts and from values of some kind, escaped. -/
inductive Spliced (stands : String → Prop) : String → Prop where
  | plain {s : String} (plain : IsPlain s) : Spliced stands s
  | escaped {v : String} (own : stands v) : Spliced stands (Literal.escaped v)
  | append {s t : String} (first : Spliced stands s) (second : Spliced stands t) : Spliced stands (s ++ t)

namespace Spliced

variable {stands : String → Prop}

theorem isUnbroken {t : String} (spliced : Spliced stands t) : IsUnbroken t := by
  induction spliced with
  | plain plain => exact plain.isUnbroken
  | escaped => exact isUnbroken_escaped _
  | append _ _ first second => exact first.append second

theorem isBalanced (balanced : ∀ v, stands v → IsBalanced v) {t : String} (spliced : Spliced stands t) :
    IsBalanced t := by
  induction spliced with
  | plain plain => exact plain.isBalanced
  | escaped own => exact isBalanced_escaped.mpr (balanced _ own)
  | append _ _ first second => exact first.append second

theorem bracketed {v : String} (own : stands v) : Spliced stands (Literal.bracketed v) :=
  .append (.append (.plain (by decide)) (.escaped own)) (.plain (by decide))

theorem value {stem v : String} (plain : IsPlain stem) (own : stands v) :
    Spliced stands (Literal.value stem v) :=
  .append (.append (.plain plain) (.plain (by decide))) (.bracketed own)

theorem declaration {property v : String} (plain : IsPlain property) (own : stands v) :
    Spliced stands (Literal.declaration property v) :=
  .append (.append (.append (.append (.plain (by decide)) (.plain plain)) (.plain (by decide)))
    (.escaped own)) (.plain (by decide))

end Spliced

/-- No token of the table has blanks or brackets. -/
def Keywords.IsPlain (table : Keywords) : Prop := ∀ entry ∈ table, Clipping.IsPlain entry.2

instance (table : Keywords) : Decidable table.IsPlain := inferInstanceAs (Decidable (∀ entry ∈ table, _))

theorem Keywords.IsPlain.lookup {table : Keywords} (plain : table.IsPlain) {value token : String}
    (found : table.lookup value = some token) : Clipping.IsPlain token :=
  plain (value, token) (mem_of_lookup found)

/-! Keys of lengths, and colours. -/

theorem isPlain_key {x : Finite} {k : String} (named : Scale.standard.key (.finite x) = .ok k) :
    IsPlain k := by
  have names : ∀ key ∈ ["0", "px", "0.5", "1.5", "2.5", "3.5"], IsPlain key := by decide
  rcases Scale.key_standard_cases named with name | ⟨n, rfl⟩ | rfl
  · exact names k name
  · exact isPlain_toString n
  · exact .append (.append (by decide) (Length.isPlain_finiteText x)) (by decide)

variable {stands : String → Prop} {stem v : String}

theorem spliced_lengthKey (own : stands v) : Spliced stands (Output.lengthKey v) := by
  unfold Output.lengthKey
  cases found : Scale.key? v with
  | none => exact .bracketed own
  | some key =>
    obtain ⟨x, -, named⟩ := Scale.key?_eq_some_iff.mp found
    exact .plain (isPlain_key named)

theorem spliced_color (plain : IsPlain stem) (own : stands v) :
    Spliced stands (Color.token v stem).token := by
  have names : ∀ swatch ∈ palette, IsPlain swatch.name := by decide +kernel
  unfold Color.token
  split
  · exact .value plain own
  · next hex found =>
    split
    · next swatch named =>
      exact .plain ((plain.append (by decide)).append (names swatch (List.mem_of_find?_eq_some named)))
    · exact .plain (((plain.append (by decide)).append (Color.isPlain_canonical found)).append (by decide))

/-! Outputs. -/

namespace Output

/-- All tokens are written, and made of plain texts and values of some kind. -/
def IsSpliced (stands : String → Prop) (o : Output) : Prop := ∀ t ∈ o.emitted, t ≠ "" ∧ Spliced stands t

namespace IsSpliced

theorem none : Output.none.IsSpliced stands := nofun

theorem append {a b : Output} (first : a.IsSpliced stands) (second : b.IsSpliced stands) :
    (a ++ b).IsSpliced stands := List.forall_mem_append.mpr ⟨first, second⟩

theorem join {outputs : List Output} (each : ∀ o ∈ outputs, o.IsSpliced stands) :
    (join outputs).IsSpliced stands := by
  intro t member
  rw [emitted_join] at member
  obtain ⟨o, listed, own⟩ := List.mem_flatMap.mp member
  exact each o listed t own

theorem row {outputs : List Output} (each : outputs.Forall (IsSpliced stands)) :
    (Output.join outputs).IsSpliced stands := join (List.forall_iff_forall_mem.mp each)

theorem fallback {t : String} (spliced : Spliced stands t) (property value : String) (reason : Reason) :
    (fallback t property value reason).IsSpliced stands := by
  intro s member
  unfold Output.fallback at member
  split at member
  · cases member
  · next written =>
    obtain rfl := List.mem_singleton.mp member
    exact ⟨fun empty => written (String.isEmpty_iff.mpr empty), spliced⟩

theorem token {t : String} (spliced : Spliced stands t) : (token t).IsSpliced stands :=
  fallback spliced "" "" .unmappableValue

theorem plain {t : String} (plain : IsPlain t) : (Output.token t).IsSpliced stands := token (.plain plain)

theorem unmapped {t : String} (spliced : Spliced stands t) (property value : String) :
    (unmapped t property value).IsSpliced stands := fallback spliced property value .unmappableValue

theorem declaration {property : String} (plain : IsPlain property) (own : stands v) :
    (declaration property v).IsSpliced stands := unmapped (.declaration plain own) property v

theorem color (plain : IsPlain stem) (property : String) (own : stands v) :
    (color stem property v).IsSpliced stands := by
  have spliced := spliced_color plain own
  unfold Output.color
  simp only
  split
  · exact token spliced
  · exact fallback spliced property v .unmatchedColor

theorem keyNote (property value : String) : (keyNote property value).IsSpliced stands := nofun

theorem length (plain : IsPlain stem) (property : String) (own : stands v) :
    (length stem property v).IsSpliced stands :=
  .append (token (.append (.plain (plain.append (by decide))) (spliced_lengthKey own))) (keyNote property v)

end IsSpliced

end Output

end Clipping.Utility

import Clipping.Color.Token
import Clipping.Length
import Clipping.Utility.Literal

/-! What declarations compile to: tokens in the order of their emission, and a note for
each declaration that needed a literal. Outputs append; repeats of a token are left out
only where the tokens are read. -/
namespace Clipping.Utility

inductive Reason where
  | unmappableValue
  | unmatchedColor
  deriving DecidableEq, Repr

structure Fallback where
  property : String
  value : String
  token : String
  reason : Reason
  deriving DecidableEq, Repr

structure Output where
  emitted : List String
  fallbacks : List Fallback
  deriving DecidableEq, Repr

namespace Output

def none : Output := ⟨[], []⟩

instance : Append Output := ⟨fun a b => ⟨a.emitted ++ b.emitted, a.fallbacks ++ b.fallbacks⟩⟩

/-- The tokens, each at its first place. -/
def tokens (o : Output) : List String := o.emitted.eraseDups

def join (outputs : List Output) : Output := outputs.foldr (· ++ ·) none

/-- A token; the empty one is none. -/
def token (t : String) : Output := ⟨if t.isEmpty then [] else [t], []⟩

def fallback (t property value : String) (reason : Reason) : Output :=
  ⟨if t.isEmpty then [] else [t], [⟨property, value, t, reason⟩]⟩

/-- A token that stands for a value without a name. -/
def unmapped (t property value : String) : Output := fallback t property value .unmappableValue

def declaration (property value : String) : Output :=
  unmapped (Literal.declaration property value) property value

def color (stem property value : String) : Output :=
  let found := Color.token value stem
  if found.swatch.isSome then token found.token
  else fallback found.token property value .unmatchedColor

/-- The key of a length: its place on the spacing scale, or else a literal. -/
def lengthKey (value : String) : String := (Scale.key? value).getD (Literal.bracketed value)

def isLiteralKey (key : String) : Bool := key.toList.head? == some '['

def keyNote (property value : String) : Output :=
  let key := lengthKey value
  ⟨[], if isLiteralKey key then [⟨property, value, key, .unmappableValue⟩] else []⟩

def length (stem property value : String) : Output :=
  token (stem ++ "-" ++ lengthKey value) ++ keyNote property value

@[simp] theorem emitted_none : none.emitted = [] := rfl
@[simp] theorem fallbacks_none : none.fallbacks = [] := rfl
@[simp] theorem emitted_append (a b : Output) : (a ++ b).emitted = a.emitted ++ b.emitted := rfl
@[simp] theorem fallbacks_append (a b : Output) : (a ++ b).fallbacks = a.fallbacks ++ b.fallbacks := rfl

@[simp] theorem none_append (a : Output) : none ++ a = a := rfl

@[simp] theorem append_none (a : Output) : a ++ none = a := by
  show Output.mk (a.emitted ++ []) (a.fallbacks ++ []) = a
  simp

theorem append_assoc (a b c : Output) : a ++ b ++ c = a ++ (b ++ c) := by
  show Output.mk (a.emitted ++ b.emitted ++ c.emitted) (a.fallbacks ++ b.fallbacks ++ c.fallbacks) = _
  simp only [List.append_assoc]
  rfl

end Output

end Clipping.Utility

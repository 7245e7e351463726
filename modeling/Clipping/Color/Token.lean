import Clipping.Color.Notation
import Clipping.Color.Palette
import Clipping.Utility.Literal

/-! Utility tokens of colours: the name of the swatch with exactly that colour, else the
colour itself as a literal. -/
namespace Clipping.Color

structure Token where
  token : String
  swatch : Option Swatch
  deriving DecidableEq, Repr

def token (value stem : String) : Token :=
  match canonical? value with
  | none => ⟨Literal.value stem value, none⟩
  | some hex =>
    match Swatch.named? hex with
    | some swatch => ⟨stem ++ "-" ++ swatch.name, some swatch⟩
    | none => ⟨stem ++ "-[" ++ hex ++ "]", none⟩

end Clipping.Color

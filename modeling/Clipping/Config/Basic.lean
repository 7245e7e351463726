import Clipping.Text.Blank
import Clipping.Text.Digit

/-! Settings of an export. The invariants are part of the type: every name is usable, and
no generated class name is that of the root. -/
namespace Clipping

/-- The root name is the stem followed by a number that an ordinal could write. -/
def collides (rootClass childStem : String) : Bool :=
  match Text.after? childStem.toList rootClass.toList with
  | some (first :: rest) =>
    !childStem.isEmpty && first != '0' && (first :: rest).all Text.isDigit
  | _ => false

structure Config where
  rootClass : String
  /-- What the class names of the elements below the root start with. -/
  childStem : String
  /-- What the ids of overlay elements start with. -/
  overlayStem : String
  indentWidth : Nat
  /-- Text shorter than this stays on the line of its tags. -/
  inlineLimit : Nat
  rootClass_ne : rootClass ≠ ""
  childStem_ne : childStem ≠ ""
  indentWidth_pos : 1 ≤ indentWidth
  indentWidth_le : indentWidth ≤ 8
  inlineLimit_pos : 1 ≤ inlineLimit
  distinct : collides rootClass childStem = false

namespace Config

def standard : Config where
  rootClass := "copied-el"
  childStem := "copied-el-c"
  overlayStem := "__html-picker"
  indentWidth := 2
  inlineLimit := 80
  rootClass_ne := by decide
  childStem_ne := by decide
  indentWidth_pos := by decide
  indentWidth_le := by decide
  inlineLimit_pos := by decide
  distinct := by decide

def childClass (c : Config) (ordinal : Int) : String := c.childStem ++ toString ordinal

/-- The class name of the element with a number: the root has number zero. -/
def className (c : Config) (index : Nat) : String :=
  if index = 0 then c.rootClass else c.childClass index

end Config

end Clipping

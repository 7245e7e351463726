import Clipping.Markup.Node

/-! The tokens of markup: runs of text, tags, and boundaries, which are what is left of
comments, instructions and declarations. -/
namespace Clipping.Markup

inductive Token where
  | text (run : List Char)
  | boundary
  | start (tag : String) (attributes : Attributes) (closed : Bool)
  | finish (tag : String)

/-- Why markup is rejected: a section with an unknown keyword, or without any. -/
inductive Rejection where
  | unknownSection (keyword : String)
  | unnamedSection (context : String)
  deriving DecidableEq, Repr

end Clipping.Markup

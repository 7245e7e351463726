import Clipping.Utility.Rule

/-! The rule for flexible boxes and their items. -/
namespace Clipping.Utility

def flexNames : Keywords := [
  ("1 1 0%", "flex-1"), ("1 1 0px", "flex-1"), ("1 1 auto", "flex-auto"),
  ("0 1 auto", "flex-initial"), ("0 0 auto", "flex-none")]

def directionNames : Keywords := [
  ("row", "flex-row"), ("column", "flex-col"), ("row-reverse", "flex-row-reverse"),
  ("column-reverse", "flex-col-reverse")]

def wrapNames : Keywords := [
  ("wrap", "flex-wrap"), ("nowrap", "flex-nowrap"), ("wrap-reverse", "flex-wrap-reverse")]

def justifyContentNames : Keywords := [
  ("flex-start", "justify-start"), ("flex-end", "justify-end"), ("start", "justify-start"),
  ("end", "justify-end"), ("center", "justify-center"), ("space-between", "justify-between"),
  ("space-around", "justify-around"), ("space-evenly", "justify-evenly"),
  ("stretch", "justify-stretch")]

def alignItemsNames : Keywords := [
  ("flex-start", "items-start"), ("flex-end", "items-end"), ("start", "items-start"),
  ("end", "items-end"), ("center", "items-center"), ("stretch", "items-stretch"),
  ("baseline", "items-baseline")]

def alignContentNames : Keywords := [
  ("flex-start", "content-start"), ("flex-end", "content-end"), ("start", "content-start"),
  ("end", "content-end"), ("center", "content-center"), ("space-between", "content-between"),
  ("space-around", "content-around"), ("space-evenly", "content-evenly"),
  ("stretch", "content-stretch"), ("baseline", "content-baseline")]

def alignSelfNames : Keywords := [
  ("auto", "self-auto"), ("flex-start", "self-start"), ("flex-end", "self-end"),
  ("start", "self-start"), ("end", "self-end"), ("center", "self-center"),
  ("stretch", "self-stretch"), ("baseline", "self-baseline")]

def basisNames : Keywords := [("100%", "full"), ("50%", "1/2"), ("25%", "1/4")]

def factor? (value : String) : Option Finite :=
  (Decimal.read? value.toList).bind Binary64.finite?

/-- Direction and wrapping in one value; each word must be one of the two. -/
def flow (d : Declarations) : Output :=
  declared d "flex-flow" fun v =>
    match (split v).mapM fun part => directionNames.lookup part <|> wrapNames.lookup part with
    | some tokens => .join (tokens.map .token)
    | none => .declaration "flex-flow" v

/-- No growth says nothing. -/
def grow (d : Declarations) : Output :=
  declared d "flex-grow" fun v =>
    match factor? v with
    | none => .declaration "flex-grow" v
    | some x =>
      if x.value = 0 then .none
      else if x.value = 1 then .token "grow"
      else .token ("grow-[" ++ x.plain ++ "]")

/-- Shrinking by the factor one says nothing. -/
def shrink (d : Declarations) : Output :=
  declared d "flex-shrink" fun v =>
    match factor? v with
    | none => .declaration "flex-shrink" v
    | some x =>
      if x.value = 1 then .none
      else if x.value = 0 then .token "shrink-0"
      else .token ("shrink-[" ++ x.plain ++ "]")

def order (d : Declarations) : Output :=
  declared d "order" fun v => if v = "" ∨ v = "0" then .none else .token ("order-[" ++ v ++ "]")

def flexRule : Rule where
  id := "FLEX.CONTAINER_ITEM"
  kind := "FlexRule"
  properties := [
    "flex", "flex-direction", "flex-wrap", "flex-flow", "justify-content", "align-items",
    "align-content", "align-self", "flex-grow", "flex-shrink", "flex-basis", "order"]
  emit d := .join [
    mappedAfter "flex" d "flex" flexNames,
    mapped d "flex-direction" directionNames,
    mapped d "flex-wrap" wrapNames,
    flow d,
    mapped d "justify-content" justifyContentNames,
    mapped d "align-items" alignItemsNames,
    mapped d "align-content" alignContentNames,
    mapped d "align-self" alignSelfNames,
    grow d,
    shrink d,
    measured d "basis" "flex-basis" basisNames,
    order d]

end Clipping.Utility

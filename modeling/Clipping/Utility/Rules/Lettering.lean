import Clipping.Utility.Rule

/-! Rules for fonts and for the setting of text. -/
namespace Clipping.Utility

def fontSizeNames : Keywords := [
  ("12px", "text-xs"), ("14px", "text-sm"), ("16px", "text-base"), ("18px", "text-lg"),
  ("20px", "text-xl"), ("24px", "text-2xl"), ("30px", "text-3xl"), ("36px", "text-4xl"),
  ("48px", "text-5xl"), ("60px", "text-6xl"), ("72px", "text-7xl"), ("96px", "text-8xl"),
  ("128px", "text-9xl")]

def fontWeightNames : Keywords := [
  ("100", "font-thin"), ("200", "font-extralight"), ("300", "font-light"),
  ("400", "font-normal"), ("500", "font-medium"), ("600", "font-semibold"),
  ("700", "font-bold"), ("800", "font-extrabold"), ("900", "font-black"),
  ("bold", "font-bold")]

def fontStyleNames : Keywords := [
  ("italic", "italic"), ("oblique", "italic"), ("normal", "not-italic")]

def fontVariantNames : Keywords := [("small-caps", "[font-variant:small-caps]")]

def lineHeightNames : Keywords := [
  ("1", "leading-none"), ("1.25", "leading-tight"), ("1.375", "leading-snug"),
  ("1.5", "leading-normal"), ("1.625", "leading-relaxed"), ("2", "leading-loose")]

def textAlignNames : Keywords := [
  ("left", "text-left"), ("center", "text-center"), ("right", "text-right"),
  ("justify", "text-justify"), ("start", "text-start"), ("end", "text-end")]

def textTransformNames : Keywords := [
  ("uppercase", "uppercase"), ("lowercase", "lowercase"), ("capitalize", "capitalize"),
  ("none", "normal-case")]

def letterSpacingNames : Keywords := [
  ("-0.05em", "tracking-tighter"), ("-0.025em", "tracking-tight"), ("0em", "tracking-normal"),
  ("0.025em", "tracking-wide"), ("0.05em", "tracking-wider"), ("0.1em", "tracking-widest")]

def textOverflowNames : Keywords := [("ellipsis", "text-ellipsis"), ("clip", "text-clip")]

def whiteSpaceNames : Keywords := [
  ("normal", "whitespace-normal"), ("nowrap", "whitespace-nowrap"), ("pre", "whitespace-pre"),
  ("pre-line", "whitespace-pre-line"), ("pre-wrap", "whitespace-pre-wrap"),
  ("break-spaces", "whitespace-break-spaces")]

/-- Double quotes become single ones, so that no token holds a double quote. -/
def fontFamily (d : Declarations) : Output :=
  declared d "font-family" fun v =>
    let quoted := String.ofList (v.toList.map fun c => if c = '\x22' then '\x27' else c)
    .unmapped (Literal.value "font" quoted) "font-family" v

/-- The name of a line height without a unit, rounded to three places. -/
def lineHeightName? (value : String) : Option String :=
  match Length.numeral? value.toList with
  | some (digits, []) =>
    match Decimal.read? digits with
    | some (.finite x) => lineHeightNames.lookup (x.rounded 3).plain
    | _ => none
  | _ => none

def lineHeight (d : Declarations) : Output :=
  declared d "line-height" fun v =>
    match lineHeightName? v with
    | some token => .token token
    | none => .unmapped (Literal.value "leading" v) "line-height" v

def fontRule : Rule where
  id := "TYPOGRAPHY.FONT"
  kind := "FontRule"
  properties := ["font-family", "font-size", "font-weight", "font-style", "font-variant", "line-height"]
  emit d := .join [
    fontFamily d,
    mappedAfter "text" d "font-size" fontSizeNames,
    mappedAfter "font" d "font-weight" fontWeightNames,
    mapped d "font-style" fontStyleNames,
    mapped d "font-variant" fontVariantNames,
    lineHeight d]

/-- The first line that the value names decides. -/
def decoration (d : Declarations) : Output :=
  declared d "text-decoration" fun v =>
    let names (word : String) : Bool := Text.occursIn word.toList v.toList
    if names "underline" then .token "underline"
    else if names "line-through" then .token "line-through"
    else if names "overline" then .token "overline"
    else if "none".toList.isPrefixOf v.toList then .token "no-underline"
    else .unmapped (Literal.value "decoration" v) "text-decoration" v

def textRule : Rule where
  id := "TYPOGRAPHY.TEXT"
  kind := "TextRule"
  properties := [
    "text-align", "text-decoration", "text-transform", "letter-spacing", "word-spacing",
    "text-overflow", "white-space"]
  emit d := .join [
    mapped d "text-align" textAlignNames,
    decoration d,
    mapped d "text-transform" textTransformNames,
    mappedAfter "tracking" d "letter-spacing" letterSpacingNames,
    verbatim d "word-spacing",
    mapped d "text-overflow" textOverflowNames,
    mapped d "white-space" whiteSpaceNames]

end Clipping.Utility

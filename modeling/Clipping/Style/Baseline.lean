import Clipping.Style.Declarations

/-! What a page shows without any style: the values that say nothing, and the values that
each tag has of its own. -/
namespace Clipping.Baseline

/-- Values that are never worth a declaration, in lower case. -/
def neutral : List String := [
  "none", "0px", "auto", "initial", "inherit", "unset", "revert", "rgba(0, 0, 0, 0)",
  "transparent", "currentcolor", "normal"]

/-- Displays that need not be declared again when they were left out. -/
def impliedDisplays : List String := ["inline", "block"]

abbrev Table := List (String × Declarations)

def ofTags : Table := [
  ("div", .ofList [("display", "block")]),
  ("span", .ofList [("display", "inline")]),
  ("p", .ofList [("display", "block"), ("margin-top", "16px"), ("margin-bottom", "16px")]),
  ("ul", .ofList [("display", "block"), ("list-style", "disc"), ("padding-left", "40px")]),
  ("ol", .ofList [("display", "block"), ("list-style", "decimal"), ("padding-left", "40px")]),
  ("li", .ofList [("display", "list-item")]),
  ("a", .ofList [
    ("color", "rgb(0, 0, 238)"), ("text-decoration", "underline"), ("cursor", "pointer")]),
  ("button", .ofList [("display", "inline-block"), ("cursor", "pointer")]),
  ("input", .ofList [("display", "inline-block")]),
  ("h1", .ofList [
    ("display", "block"), ("font-size", "32px"), ("font-weight", "700"),
    ("margin-top", "21.44px"), ("margin-bottom", "21.44px")]),
  ("h2", .ofList [("display", "block"), ("font-size", "24px"), ("font-weight", "700")]),
  ("h3", .ofList [("display", "block"), ("font-size", "18.72px"), ("font-weight", "700")]),
  ("h4", .ofList [("display", "block"), ("font-size", "16px"), ("font-weight", "700")]),
  ("img", .ofList [("display", "inline-block")]),
  ("table", .ofList [("display", "table"), ("border-collapse", "separate")]),
  ("thead", .ofList [("display", "table-header-group")]),
  ("tbody", .ofList [("display", "table-row-group")]),
  ("tr", .ofList [("display", "table-row")]),
  ("td", .ofList [("display", "table-cell"), ("vertical-align", "inherit")]),
  ("th", .ofList [("display", "table-cell"), ("font-weight", "700")])]

def Table.of (table : Table) (tag : String) : Declarations := (table.lookup tag).getD .empty

end Clipping.Baseline

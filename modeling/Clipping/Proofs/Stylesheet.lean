import Clipping.Proofs.Markup.Retagged
import Clipping.Style.Property
import Clipping.Stylesheet
import Mathlib.Data.List.Basic

/-! Stylesheets are read back. Each line tells by its last character what it is: a bracket ends
the head of a rule, a semicolon ends a declaration, and any other line says nothing. So whatever
the values hold, a stylesheet determines the rules that it was printed from. -/
namespace Clipping.Stylesheet

def headName (line : List Char) : String := String.ofList (line.drop 1).dropLast.dropLast

/-- The property and the value of a declaration behind a margin, with the first colon between
them. -/
def declarationOf (indentWidth : Nat) (line : List Char) : String × String :=
  let inner := (line.drop indentWidth).dropLast
  (String.ofList (inner.takeWhile (· != ':')), String.ofList ((inner.dropWhile (· != ':')).drop 2))

/-- Gathers lines from the last one up: the declarations whose head is still to come, and the
rules below it. -/
def gather (indentWidth : Nat) : List (List Char) → List (String × String) × List (String × Declarations)
  | [] => ([], [])
  | line :: rest =>
    let (headless, rules) := gather indentWidth rest
    if line.getLast? = some '\x7b' then ([], (headName line, .ofList headless) :: rules)
    else if line.getLast? = some ';' then (declarationOf indentWidth line :: headless, rules)
    else (headless, rules)

def read (indentWidth : Nat) (text : String) : List (String × Declarations) :=
  (gather indentWidth (text.toList.splitOn '\n')).2

/-- A property whose name ends at the first colon of its line. -/
def IsPlain (property : String) : Prop := ':' ∉ property.toList ∧ '\n' ∉ property.toList

instance (property : String) : Decidable (IsPlain property) := inferInstanceAs (Decidable (_ ∧ _))

/-- A rule that takes one line for its head and one for each declaration. -/
structure IsLegible (rule : String × Declarations) : Prop where
  className : '\n' ∉ rule.1.toList
  properties : ∀ entry ∈ rule.2.entries, IsPlain entry.1
  values : ∀ entry ∈ rule.2.entries, '\n' ∉ entry.2.toList

instance (rule : String × Declarations) : Decidable (IsLegible rule) :=
  decidable_of_iff ('\n' ∉ rule.1.toList ∧ (∀ entry ∈ rule.2.entries, IsPlain entry.1) ∧
      ∀ entry ∈ rule.2.entries, '\n' ∉ entry.2.toList)
    ⟨fun ⟨className, properties, values⟩ => ⟨className, properties, values⟩,
      fun ⟨className, properties, values⟩ => ⟨className, properties, values⟩⟩

/-! The lines of a rule. -/

def headLine (className : String) : List Char := '.' :: (className.toList ++ [' ', '\x7b'])

def declarationLine (indentWidth : Nat) (entry : String × String) : List Char :=
  List.replicate indentWidth ' ' ++ (entry.1.toList ++ ':' :: ' ' :: entry.2.toList ++ [';'])

def ruleLines (indentWidth : Nat) (rule : String × Declarations) : List (List Char) :=
  headLine rule.1 :: (rule.2.entries.map (declarationLine indentWidth) ++ [['\x7d']])

theorem headName_headLine (className : String) : headName (headLine className) = className := by
  simp [headName, headLine]

theorem declarationOf_declarationLine (indentWidth : Nat) {entry : String × String}
    (plain : IsPlain entry.1) : declarationOf indentWidth (declarationLine indentWidth entry) = entry := by
  have length : (List.replicate indentWidth ' ').length = indentWidth := List.length_replicate
  have inner : ((declarationLine indentWidth entry).drop indentWidth).dropLast =
      entry.1.toList ++ ':' :: ' ' :: entry.2.toList := by
    rw [declarationLine, List.drop_left' length, List.dropLast_concat]
  have inside : ∀ c ∈ entry.1.toList, (c != ':') = true := fun c member =>
    bne_iff_ne.mpr fun same => plain.1 (same ▸ member)
  have mark : ∀ c ∈ (':' :: ' ' :: entry.2.toList).head?, (c != ':') = false := by simp
  obtain ⟨before, after⟩ := Text.span_at_mark inside mark
  simp [declarationOf, inner, before, after]

theorem getLast?_headLine (className : String) : (headLine className).getLast? = some '\x7b' := by
  rw [headLine, List.getLast?_cons, List.getLast?_append]
  rfl

theorem getLast?_declarationLine (indentWidth : Nat) (entry : String × String) :
    (declarationLine indentWidth entry).getLast? = some ';' := by
  rw [declarationLine, ← List.append_assoc, List.getLast?_concat]

theorem not_mem_ruleLines (indentWidth : Nat) {rule : String × Declarations} (legible : IsLegible rule) :
    ∀ line ∈ ruleLines indentWidth rule, '\n' ∉ line := by
  intro line member
  simp only [ruleLines, List.mem_cons, List.mem_append, List.mem_map, List.not_mem_nil, or_false] at member
  rcases member with rfl | ⟨entry, own, rfl⟩ | rfl
  · simp [headLine, legible.className]
  · have property := (legible.properties entry own).2
    have value := legible.values entry own
    simp [declarationLine, property, value]
  · decide

theorem toList_rule (indentWidth : Nat) {rule : String × Declarations} (stated : rule.2.isEmpty = false) :
    (Stylesheet.rule indentWidth rule.1 rule.2).toList =
      ['\n'].intercalate (ruleLines indentWidth rule) := by
  have head : ("." ++ rule.1 ++ " \x7b").toList = headLine rule.1 := by simp [headLine]
  have each (entry : String × String) :
      (String.ofList (List.replicate indentWidth ' ') ++ entry.1 ++ ": " ++ entry.2 ++ ";").toList =
        declarationLine indentWidth entry := by
    simp [declarationLine]
  have lineEnd : "\n".toList = ['\n'] := rfl
  have close : "\x7d".toList = ['\x7d'] := rfl
  simp only [Stylesheet.rule, stated, Bool.false_eq_true, if_false, String.toList_intercalate, lineEnd,
    List.map_cons, List.map_append, List.map_map, Function.comp_def, each, head, List.map_nil, close,
    ruleLines, List.cons_append]

/-! Gathering. -/

theorem gather_declarations (indentWidth : Nat) {entries : List (String × String)}
    (plain : ∀ entry ∈ entries, IsPlain entry.1) (rest : List (List Char)) :
    gather indentWidth (entries.map (declarationLine indentWidth) ++ rest) =
      (entries ++ (gather indentWidth rest).1, (gather indentWidth rest).2) := by
  induction entries with
  | nil => rfl
  | cons entry entries ih =>
    obtain ⟨own, others⟩ := List.forall_mem_cons.mp plain
    simp [gather, ih others, getLast?_declarationLine, declarationOf_declarationLine indentWidth own]

/-- The lines of a rule give the rule back, above lines that lack no head. -/
theorem gather_ruleLines (indentWidth : Nat) {rule : String × Declarations} (legible : IsLegible rule)
    {rest : List (List Char)} {rules : List (String × Declarations)}
    (below : gather indentWidth rest = ([], rules)) :
    gather indentWidth (ruleLines indentWidth rule ++ rest) = ([], rule :: rules) := by
  have close : gather indentWidth ([['\x7d']] ++ rest) = ([], rules) := by simp [gather, below]
  have inner : gather indentWidth (rule.2.entries.map (declarationLine indentWidth) ++ ([['\x7d']] ++ rest)) =
      (rule.2.entries, rules) := by
    rw [gather_declarations indentWidth legible.properties, close, List.append_nil]
  rw [ruleLines, List.cons_append, List.append_assoc, gather, inner]
  simp [getLast?_headLine, headName_headLine]

theorem splitOn_parted (above below : String) : (above ++ "\n\n" ++ below).toList.splitOn '\n' =
    above.toList.splitOn '\n' ++ [] :: below.toList.splitOn '\n' := by
  have chars : (above ++ "\n\n" ++ below).toList =
      above.toList ++ '\n' :: ([] ++ '\n' :: below.toList) := by simp
  simp only [chars, List.splitOn_eq_splitOnP]
  rw [List.splitOnP_append_cons _ _ (by decide), List.splitOnP_append_cons _ _ (by decide)]
  rfl

def sheet (indentWidth : Nat) (rules : List (String × Declarations)) : String :=
  String.intercalate "\n\n" (rules.map fun r => Stylesheet.rule indentWidth r.1 r.2)

theorem gather_sheet (indentWidth : Nat) {rules : List (String × Declarations)}
    (legible : ∀ r ∈ rules, IsLegible r) (stated : ∀ r ∈ rules, r.2.isEmpty = false) :
    gather indentWidth ((sheet indentWidth rules).toList.splitOn '\n') = ([], rules) := by
  induction rules with
  | nil => rfl
  | cons r rest ih =>
    obtain ⟨own, others⟩ := List.forall_mem_cons.mp legible
    obtain ⟨some, each⟩ := List.forall_mem_cons.mp stated
    have lines : (Stylesheet.rule indentWidth r.1 r.2).toList.splitOn '\n' = ruleLines indentWidth r := by
      rw [toList_rule indentWidth some]
      exact List.splitOn_intercalate '\n' (not_mem_ruleLines indentWidth own) (List.cons_ne_nil _ _)
    cases rest with
    | nil =>
      have alone : sheet indentWidth [r] = Stylesheet.rule indentWidth r.1 r.2 := by simp [sheet]
      rw [alone, lines, ← List.append_nil (ruleLines indentWidth r)]
      exact gather_ruleLines indentWidth own rfl
    | cons next rest =>
      have parted : sheet indentWidth (r :: next :: rest) =
          Stylesheet.rule indentWidth r.1 r.2 ++ "\n\n" ++ sheet indentWidth (next :: rest) := by
        simp [sheet, String.intercalate_cons_cons]
      rw [parted, splitOn_parted, lines]
      apply gather_ruleLines indentWidth own
      rw [gather, ih others each]
      rfl

theorem isEmpty_rule (indentWidth : Nat) (rule : String × Declarations) :
    (Stylesheet.rule indentWidth rule.1 rule.2).isEmpty = rule.2.isEmpty := by
  cases stated : rule.2.isEmpty with
  | true => simp [Stylesheet.rule, stated]
  | false => simp [Stylesheet.rule, stated]

/-- Only rules with declarations are printed. -/
theorem print_eq (indentWidth : Nat) (rules : List (String × Declarations)) :
    print indentWidth rules = sheet indentWidth (rules.filter (!·.2.isEmpty)) := by
  rw [print, sheet, List.filter_map]
  simp only [Function.comp_def, isEmpty_rule]

theorem read_printed (indentWidth : Nat) {rules : List (String × Declarations)}
    (legible : ∀ r ∈ rules, IsLegible r) :
    read indentWidth (print indentWidth rules) = rules.filter (!·.2.isEmpty) := by
  rw [read, print_eq, gather_sheet]
  · exact fun r member => legible r (List.mem_filter.mp member).1
  · exact fun r member => by simpa using (List.mem_filter.mp member).2

/-- A stylesheet tells its rules with their declarations, in order, and nothing but the rules
without declarations is lost; the names of all properties that are read from a page are plain. -/
theorem stylesheet_determines_rules (indentWidth : Nat) :
    (∀ rules : List (String × Declarations), (∀ r ∈ rules, IsLegible r) →
      read indentWidth (print indentWidth rules) = rules.filter (!·.2.isEmpty)) ∧
    (∀ rules others : List (String × Declarations), (∀ r ∈ rules, IsLegible r) →
      (∀ r ∈ others, IsLegible r) → print indentWidth rules = print indentWidth others →
      rules.filter (!·.2.isEmpty) = others.filter (!·.2.isEmpty)) ∧
    ∀ p ∈ Property.tracked, IsPlain p := by
  refine ⟨fun rules => read_printed indentWidth, ?_, by decide +kernel⟩
  intro rules others legible legibleOther same
  calc rules.filter (!·.2.isEmpty)
      _ = read indentWidth (print indentWidth rules) := (read_printed indentWidth legible).symm
      _ = read indentWidth (print indentWidth others) := congrArg (read indentWidth) same
      _ = others.filter (!·.2.isEmpty) := read_printed indentWidth legibleOther

/-- Rules whose values hold the marks of rules, around one without declarations. -/
def markedRules : List (String × Declarations) := [
  ("a \x7b", .ofList [("content", ": .b \x7b color: red; \x7d"), ("color", "")]),
  ("b", .empty),
  (".c;", .ofList [("margin", "; \x7b"), ("", "\x7d")])]

theorem markedRules_read :
    (∀ r ∈ markedRules, IsLegible r) ∧
    read 2 (print 2 markedRules) = markedRules.filter (!·.2.isEmpty) ∧ markedRules.length = 3 ∧
    (markedRules.filter (!·.2.isEmpty)).length = 2 := by
  have legible : ∀ r ∈ markedRules, IsLegible r := by decide +kernel
  exact ⟨legible, (stylesheet_determines_rules 2).1 markedRules legible, rfl, rfl⟩

end Clipping.Stylesheet

import Clipping.Proofs.Utility.Shorthand

/-! Borders of one side. They have the tokens of the border of all sides, with the stem of the side in
the place of its own; a line style has no name there and is a literal. -/
namespace Clipping.Utility

open Text

def lineStyle? (t : String) : Option String := borderStyles.find? fun style => t == "border-" ++ style

def onSide (side stem t : String) : String :=
  match lineStyle? t with
  | some style => "[" ++ side ++ "-style:" ++ style ++ "]"
  | none =>
    match after? "border".toList t.toList with
    | some rest => stem ++ String.ofList rest
    | none => t

/-- A token is of a side if it is the stem of the side, alone or before a hyphen, or a literal of its
line style. -/
def isOfSide (t : String) (side : String × String) : Bool :=
  t.toList == side.2.toList || (side.2 ++ "-").toList.isPrefixOf t.toList ||
    ("[" ++ side.1 ++ "-style:").toList.isPrefixOf t.toList

/-- The sides whose border a token sets. A token of borders that is of no side sets them all. -/
def sidesOf (t : String) : List String :=
  match borderSides.find? (isOfSide t) with
  | some side => [side.1]
  | none => if "border".toList.isPrefixOf t.toList then borderSides.map Prod.fst else []

def borderNames : List String := ["0", "2", "4", "8"] ++ palette.map Swatch.name

/-- What follows the stem in a token of a border: nothing, the name of a width or a colour, or either of
them as a literal. -/
inductive IsRest : String → Prop where
  | alone : IsRest ""
  | named {name : String} (listed : name ∈ borderNames) : IsRest ("-" ++ name)
  | literal (text : String) : IsRest ("-[" ++ text ++ "]")

/-- What one token says about a border. -/
inductive Piece where
  | after (rest : String) (own : IsRest rest)
  | style (name : String) (listed : name ∈ borderStyles)

namespace Piece

variable {side stem : String}

def token (side stem : String) : Piece → String
  | after rest _ => stem ++ rest
  | style name _ => if stem = "border" then "border-" ++ name else "[" ++ side ++ "-style:" ++ name ++ "]"

theorem lineStyle?_style {name : String} (listed : name ∈ borderStyles) :
    lineStyle? ("border-" ++ name) = some name :=
  (by decide : ∀ name ∈ borderStyles, lineStyle? ("border-" ++ name) = some name) name listed

theorem lineStyle?_rest {rest : String} (own : IsRest rest) : lineStyle? ("border" ++ rest) = none := by
  cases own with
  | alone => decide
  | named listed =>
    exact (by decide +kernel : ∀ name ∈ borderNames, lineStyle? ("border" ++ ("-" ++ name)) = none) _ listed
  | literal text => simp [lineStyle?, borderStyles, ← String.toList_inj]

theorem onSide_token (apart : stem ≠ "border") (p : Piece) :
    onSide side stem (p.token "border" "border") = p.token side stem := by
  cases p with
  | after rest own =>
    have found : after? "border".toList ("border" ++ rest).toList = some rest.toList :=
      after?_eq_some.mpr String.toList_append
    simp only [token, onSide, lineStyle?_rest own, found, String.ofList_toList]
  | style name listed => simp only [token, if_pos, if_neg apart, onSide, lineStyle?_style listed]

theorem sidesOf_token (known : (side, stem) ∈ borderSides) (p : Piece) :
    sidesOf (p.token side stem) = [side] := by
  simp only [borderSides, List.mem_cons, List.not_mem_nil, or_false, Prod.mk.injEq] at known
  rcases known with ⟨rfl, rfl⟩ | ⟨rfl, rfl⟩ | ⟨rfl, rfl⟩ | ⟨rfl, rfl⟩
  all_goals
    cases p with
    | after rest own => cases own <;> simp [token, sidesOf, borderSides, isOfSide]
    | style name listed => simp [token, sidesOf, borderSides, isOfSide]

/-- No name is the letter of a side, alone or before a hyphen. -/
theorem unlettered_names : ∀ name ∈ borderNames ++ borderStyles, ∀ letter ∈ [['t'], ['r'], ['b'], ['l']],
    name.toList ≠ letter ∧ (letter ++ ['-']).isPrefixOf name.toList = false := by
  decide +kernel

theorem sidesOf_name {name : String} (listed : name ∈ borderNames ++ borderStyles) :
    sidesOf ("border-" ++ name) = borderSides.map Prod.fst := by
  have apart := unlettered_names name listed
  simp only [List.forall_mem_cons, List.not_mem_nil, false_implies, implies_true, and_true,
    List.cons_append, List.nil_append] at apart
  obtain ⟨⟨top, top'⟩, ⟨right, right'⟩, ⟨bottom, bottom'⟩, left, left'⟩ := apart
  simp [sidesOf, borderSides, isOfSide, top, top', right, right', bottom, bottom', left, left']

theorem sidesOf_token_border (p : Piece) : sidesOf (p.token "border" "border") = borderSides.map Prod.fst := by
  cases p with
  | after rest own =>
    cases own with
    | alone => decide
    | named listed =>
      rw [token, ← String.append_assoc]
      exact sidesOf_name (List.mem_append_left _ listed)
    | literal text => simp [token, sidesOf, borderSides, isOfSide]
  | style name listed => exact sidesOf_name (List.mem_append_right _ listed)

theorem ne_border (known : (side, stem) ∈ borderSides) : stem ≠ "border" :=
  (by decide : ∀ side ∈ borderSides, side.2 ≠ "border") (side, stem) known

/-- Where two tokens of a side are the same, so are those of all borders. -/
theorem token_border_eq (known : (side, stem) ∈ borderSides) {p q : Piece}
    (same : p.token side stem = q.token side stem) : p.token "border" "border" = q.token "border" "border" := by
  have first : stem.toList.head? = some 'b' :=
    (by decide : ∀ side ∈ borderSides, side.2.toList.head? = some 'b') (side, stem) known
  have apart (rest name : String) : stem ++ rest ≠ "[" ++ side ++ "-style:" ++ name ++ "]" := by
    intro equal
    have heads := congrArg (fun t => t.toList.head?) equal
    simp [first] at heads
  cases p with
  | after rest own =>
    cases q with
    | after other _ => exact congrArg ("border" ++ ·) ((String.append_right_inj stem).mp same)
    | style name listed => exact absurd (same.trans (if_neg (ne_border known))) (apart rest name)
  | style name listed =>
    cases q with
    | after rest own => exact absurd (same.symm.trans (if_neg (ne_border known))) (apart rest name)
    | style other _ =>
      simp only [token, if_neg (ne_border known), String.append_left_inj, String.append_right_inj] at same
      subst same
      rfl

end Piece

/-! What a border emits. -/

/-- Two outputs say the same, one about all borders and one about a side. -/
def Mirrors (side stem : String) (whole own : Output) : Prop :=
  ∃ pieces : List Piece, whole.emitted = pieces.map (Piece.token "border" "border") ∧
    own.emitted = pieces.map (Piece.token side stem)

theorem isRest_suffix {width suffix : String} (named : widthSuffixes.lookup width = some suffix) :
    IsRest suffix := by
  have listed := Keywords.mem_of_lookup named
  simp only [widthSuffixes, List.mem_cons, List.not_mem_nil, or_false, Prod.mk.injEq] at listed
  rcases listed with ⟨-, rfl⟩ | ⟨-, rfl⟩ | ⟨-, rfl⟩ | ⟨-, rfl⟩
  · exact .alone
  · exact .named (by decide : "2" ∈ borderNames)
  · exact .named (by decide : "4" ∈ borderNames)
  · exact .named (by decide : "8" ∈ borderNames)

theorem literal_eq (stem v : String) : Literal.value stem v = stem ++ ("-[" ++ Literal.escaped v ++ "]") := by
  simp [Literal.value, Literal.bracketed, ← String.toList_inj]

/-- The stem of a colour only comes first in its token. -/
theorem exists_rest_color (v : String) :
    ∃ rest, IsRest rest ∧ ∀ stem, (Color.token v stem).token = stem ++ rest := by
  unfold Color.token
  split
  · exact ⟨_, .literal _, fun stem => literal_eq stem v⟩
  · next hex _ =>
    split
    · next swatch named =>
      refine ⟨"-" ++ swatch.name, .named ?_, fun stem => String.append_assoc⟩
      exact List.mem_append_right _ (List.mem_map_of_mem (List.mem_of_find?_eq_some named))
    · exact ⟨_, .literal hex, fun stem => by simp [← String.toList_inj]⟩

namespace Mirrors

variable {side stem : String}

theorem none : Mirrors side stem .none .none := ⟨[], rfl, rfl⟩

theorem append {whole own later laterOwn : Output} (first : Mirrors side stem whole own)
    (second : Mirrors side stem later laterOwn) : Mirrors side stem (whole ++ later) (own ++ laterOwn) := by
  obtain ⟨pieces, all, each⟩ := first
  obtain ⟨more, allMore, eachMore⟩ := second
  refine ⟨pieces ++ more, ?_, ?_⟩
  · rw [Output.emitted_append, all, allMore, List.map_append]
  · rw [Output.emitted_append, each, eachMore, List.map_append]

/-- The same text after the stem. -/
theorem rest {text : String} (written : stem ≠ "") (own : IsRest text) {whole each : Output}
    (all : whole.emitted = (Output.token ("border" ++ text)).emitted)
    (one : each.emitted = (Output.token (stem ++ text)).emitted) : Mirrors side stem whole each := by
  refine ⟨[.after text own], ?_, ?_⟩
  · simp [all, Output.token, Piece.token]
  · simp [one, Output.token, Piece.token, written]

theorem alone (written : stem ≠ "") (v : String) :
    Mirrors side stem (.unmapped "border" "border" v) (.unmapped stem side v) :=
  .rest written .alone rfl (by rw [String.append_empty]; rfl)

theorem width (written : stem ≠ "") (w : String) :
    Mirrors side stem (borderWidth "border" "border" w) (borderWidth stem side w) := by
  unfold borderWidth
  cases named : widthSuffixes.lookup w with
  | some suffix => exact .rest written (isRest_suffix named) rfl rfl
  | none =>
    refine .rest written (.literal (Literal.escaped w)) ?_ ?_
    · rw [← literal_eq]
      rfl
    · rw [← literal_eq]
      rfl

theorem color (written : stem ≠ "") (v : String) :
    Mirrors side stem (.color "border" "border" v) (.color stem side v) := by
  obtain ⟨text, own, token⟩ := exists_rest_color v
  exact .rest written own (by rw [Output.emitted_color, token]) (by rw [Output.emitted_color, token])

theorem style (apart : stem ≠ "border") {name : String} (listed : name ∈ borderStyles) (v : String) :
    Mirrors side stem (borderStyle "border" "border" name v) (borderStyle stem side name v) := by
  have plain : Literal.escaped name = name :=
    (by decide : ∀ name ∈ borderStyles, Literal.escaped name = name) name listed
  by_cases solid : name = "solid"
  · simp only [borderStyle, if_pos solid]
    exact .none
  · refine ⟨[.style name listed], ?_, ?_⟩
    · simp [borderStyle, solid, Piece.token, Output.token]
    · simp [borderStyle, solid, apart, Piece.token, Output.unmapped, Output.fallback, Literal.declaration,
        plain, ← String.toList_inj]

theorem shorthand (apart : stem ≠ "border") (written : stem ≠ "") (v : String) :
    Mirrors side stem (borderShorthand "border" "border" v) (borderShorthand stem side v) := by
  unfold borderShorthand
  cases borderParts? v.toList with
  | none => exact .alone written v
  | some parts =>
    simp only
    split
    · exact .alone written v
    · next listed =>
      split
      · exact .rest written (.named (by decide : "0" ∈ borderNames)) rfl rfl
      · have known : parts.style ∈ borderStyles := by simpa using listed
        exact .append (.append (.width written _) (.style apart known v)) (.color written _)

end Mirrors

/-- Where only a border is declared, its shorthand is all that is compiled. -/
theorem compile_border {side stem : String} (known : (side, stem) ∈ ("border", "border") :: borderSides)
    (v : String) :
    (Compiler.builtin.compile (.ofList [(side, v)])).emitted = (borderShorthand stem side v).emitted := by
  have member : borderRule ∈ builtinRules := by simp [builtinRules]
  have reads : ∀ side ∈ ("border", "border") :: borderSides, side.1 ∈ borderRule.properties := by decide
  have own : ∀ p ∈ (Assoc.ofList [(side, v)]).keys, p ∈ borderRule.properties :=
    List.forall_mem_singleton.mpr (reads (side, stem) known)
  rw [compile_of_reads member own (List.cons_ne_nil _ _)]
  simp only [borderSides, List.mem_cons, List.not_mem_nil, or_false, Prod.mk.injEq] at known
  rcases known with ⟨rfl, rfl⟩ | ⟨rfl, rfl⟩ | ⟨rfl, rfl⟩ | ⟨rfl, rfl⟩ | ⟨rfl, rfl⟩
  all_goals simp [borderRule, borderSides, declared, get?_single, Output.emitted_join]

/-- The border of a side has the tokens of the border of all sides, put on the side, and none of them
sets the border of another side. -/
theorem side_mirrors_border {side stem : String} (known : (side, stem) ∈ borderSides) (v : String) :
    (Compiler.builtin.compile (.ofList [(side, v)])).tokens =
      (Compiler.builtin.compile (.ofList [("border", v)])).tokens.map (onSide side stem) ∧
    (∀ t ∈ (Compiler.builtin.compile (.ofList [(side, v)])).tokens, sidesOf t = [side]) ∧
    ∀ t ∈ (Compiler.builtin.compile (.ofList [("border", v)])).tokens,
      sidesOf t = borderSides.map Prod.fst := by
  have apart : stem ≠ "border" := Piece.ne_border known
  have written : stem ≠ "" := (by decide : ∀ side ∈ borderSides, side.2 ≠ "") (side, stem) known
  obtain ⟨pieces, whole, own⟩ : Mirrors side stem (borderShorthand "border" "border" v)
      (borderShorthand stem side v) := .shorthand apart written v
  rw [← compile_border List.mem_cons_self] at whole
  rw [← compile_border (List.mem_cons_of_mem _ known)] at own
  have put : pieces.map (Piece.token side stem) =
      (pieces.map (Piece.token "border" "border")).map (onSide side stem) := by
    rw [List.map_map]
    exact List.map_congr_left fun p _ => (Piece.onSide_token apart p).symm
  refine ⟨?_, fun t member => ?_, fun t member => ?_⟩
  · -- A token comes twice on the side only where one does on all sides, so repeats are left out alike.
    rw [Output.tokens, own, put, eraseDups_map, ← whole]
    · rfl
    · intro x first y second same
      obtain ⟨p, -, rfl⟩ := List.mem_map.mp first
      obtain ⟨q, -, rfl⟩ := List.mem_map.mp second
      rw [Piece.onSide_token apart, Piece.onSide_token apart] at same
      exact Piece.token_border_eq known same
  · obtain ⟨p, -, rfl⟩ := List.mem_map.mp (own ▸ List.mem_eraseDups.mp member)
    exact Piece.sidesOf_token known p
  · obtain ⟨p, -, rfl⟩ := List.mem_map.mp (whole ▸ List.mem_eraseDups.mp member)
    exact Piece.sidesOf_token_border p

/-- A width off the scale and a colour that is none have the same token, on all sides and on one. -/
theorem side_mirrors_border_repeated :
    ("border-top", "border-t") ∈ borderSides ∧
    (Compiler.builtin.compile (.ofList [("border", "13px dashed 13px")])).tokens =
      ["border-[13px]", "border-dashed"] ∧
    (Compiler.builtin.compile (.ofList [("border-top", "13px dashed 13px")])).tokens =
      ["border-t-[13px]", "[border-top-style:dashed]"] ∧
    (Compiler.builtin.compile (.ofList [("border-top", "13px dashed 13px")])).tokens =
      (Compiler.builtin.compile (.ofList [("border", "13px dashed 13px")])).tokens.map
        (onSide "border-top" "border-t") ∧
    (∀ t ∈ (Compiler.builtin.compile (.ofList [("border-top", "13px dashed 13px")])).tokens,
      sidesOf t = ["border-top"]) ∧
    ∀ t ∈ (Compiler.builtin.compile (.ofList [("border", "13px dashed 13px")])).tokens,
      sidesOf t = borderSides.map Prod.fst := by
  have known : ("border-top", "border-t") ∈ borderSides := by decide
  exact ⟨known, by decide +kernel, by decide +kernel, side_mirrors_border known "13px dashed 13px"⟩

end Clipping.Utility

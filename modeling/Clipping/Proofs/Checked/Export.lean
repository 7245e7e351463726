import Clipping.Proofs.Alignment
import Clipping.Proofs.Checked.Records
import Clipping.Proofs.Checked.Rules

/-! Clippings, computed with operations that may fail. Copies are found by position beside the
originals, and classes and tokens by the numbers of records. -/
namespace Clipping.Checked

open Markup

variable {κ : Type}

/-! Copies. -/

def element : Node κ → Checked (Element κ)
  | .text _ => .error .noElement
  | .element e => .ok e

/-- What stays of the copies of a content, and the number after its last. The copies stand in a
list, that of the first node at a position; overlays are told by the originals. -/
def cleanContent (stem : String) (className : Nat → String) (copies : List (Node κ)) (position next : Nat) :
    Content κ → Checked (List (Node κ) × Nat)
  | .nil => return ([], next)
  | .text _ rest => do
    let copy ← item copies position
    let (kept, after) ← cleanContent stem className copies (position + 1) next rest
    return (copy :: kept, after)
  | .element head inner rest => do
    let copy ← item copies position
    if head.hasIdStem stem then cleanContent stem className copies (position + 1) next rest
    else do
      let twin ← element copy
      let (within, between) ← cleanContent stem className twin.content.nodes 0 (next + 1) inner
      let (kept, after) ← cleanContent stem className copies (position + 1) between rest
      return (.element ⟨twin.head.cleaned.withClass (className next), .ofNodes within⟩ :: kept, after)

def clean (stem : String) (className : Nat → String) (e : Element κ) : Checked (Element κ) := do
  let copy := e.mapHeads Head.copied
  let (kept, _) ← cleanContent stem className copy.content.nodes 0 1 e.content
  return ⟨copy.head.cleaned.withClass (className 0), .ofNodes kept⟩

/-- The copy of each original stands at its position, so that none is missed and none is of
another kind. -/
theorem cleanContent_eq (stem : String) (className : Nat → String) {copies : List (Node κ)} {position : Nat}
    (next : Nat) {c : Content κ} (twins : copies.drop position = (c.mapHeads Head.copied).nodes) :
    cleanContent stem className copies position next c =
      .ok (((c.prune (·.hasIdStem stem)).mapNumbered
          (fun i h => h.copied.cleaned.withClass (className i)) next).nodes,
        next + (c.prune (·.hasIdStem stem)).heads.length) := by
  induction c generalizing copies position next with
  | nil => rfl
  | text run rest ih =>
    have found : copies[position]? = some (.text run) := by
      rw [← List.head?_drop, twins]
      rfl
    have others : copies.drop (position + 1) = (rest.mapHeads Head.copied).nodes := by
      rw [← List.tail_drop, twins]
      rfl
    rw [cleanContent, item_of_getElem? found, bind_ok, ih next others]
    rfl
  | element head inner rest within beside =>
    have found : copies[position]? = some (.element ⟨head.copied, inner.mapHeads Head.copied⟩) := by
      rw [← List.head?_drop, twins]
      rfl
    have others : copies.drop (position + 1) = (rest.mapHeads Head.copied).nodes := by
      rw [← List.tail_drop, twins]
      rfl
    rw [cleanContent, item_of_getElem? found, bind_ok]
    by_cases overlay : head.hasIdStem stem = true
    · rw [if_pos overlay, beside next others, Content.prune, if_pos overlay]
    · have below := @within (inner.mapHeads Head.copied).nodes 0 (next + 1) List.drop_zero
      have counted (m n : Nat) : next + 1 + m + n = next + (m + n + 1) := by omega
      simp only [if_neg overlay, element, bind_ok, below, beside _ others, pure_eq, Content.ofNodes_nodes,
        Content.prune, Content.mapNumbered, Content.nodes, Content.heads, List.length_cons, List.length_append,
        counted]

@[simp] theorem clean_eq (stem : String) (className : Nat → String) (e : Element κ) :
    clean stem className e = .ok (e.clean stem className) := by
  have content := @cleanContent_eq κ stem className (e.mapHeads Head.copied).content.nodes 0 1 e.content
    List.drop_zero
  simp only [clean, content, bind_ok, pure_eq, Content.ofNodes_nodes]
  rfl

/-! Indentation. -/

def parsed (read : Reader) (s : String) : Checked (Element Nat) := (read s).mapError .unparsed

/-- Indents the first element of a text; the fault of a text without one is absorbed, and no other. -/
def formatted (read : Reader) (i : Indentation) (s : String) : Checked String :=
  match parsed read s with
  | .ok e => .ok (e.indented i)
  | .error (.unparsed _) => .ok s
  | .error fault => .error fault

@[simp] theorem formatted_eq (read : Reader) (i : Indentation) (s : String) :
    formatted read i s = .ok (indentBy read i s) := by
  unfold formatted parsed indentBy
  cases read s with
  | ok e => rfl
  | error cause => rfl

/-! Clippings. -/

theorem lookup_numbered {α β : Type} {number : α → Nat} (f : α → β) {xs : List α} (first : Nat)
    (numbered : ∀ i x, xs[i]? = some x → number x = first + i) (i : Nat) :
    (xs.map fun x => (number x, f x)).lookup (first + i) = xs[i]?.map f := by
  induction xs generalizing first i with
  | nil => rfl
  | cons a rest ih =>
    rw [List.map_cons, numbered 0 a rfl]
    cases i with
    | zero => exact List.lookup_cons_self
    | succ i =>
      have different : (first + (i + 1) == first + 0) = false := beq_eq_false_iff_ne.mpr (by omega)
      have shifted (j : Nat) (x : α) (found : rest[j]? = some x) : number x = first + 1 + j := by
        rw [numbered (j + 1) x found]
        omega
      rw [List.lookup_cons, different, ← Nat.add_assoc, Nat.add_right_comm]
      exact ih (first + 1) shifted i

theorem lookup_records (config : Config) (resolve : Resolver κ) (e : Element κ) {β : Type} (f : Record → β)
    (i : Nat) : ((Record.ofElement config resolve e).map fun r => (r.index, f r)).lookup i =
      (Record.ofElement config resolve e)[i]?.map f := by
  have numbered (j : Nat) (r : Record) (found : (Record.ofElement config resolve e)[j]? = some r) :
      r.index = 0 + j := by
    obtain ⟨v, -, rfl, index, -⟩ := Record.getElem?_ofElement found
    rw [Nat.zero_add]
    exact index
  have placed := lookup_numbered f 0 numbered i
  rwa [Nat.zero_add] at placed

theorem lookup_classes (config : Config) (resolve : Resolver κ) (e : Element κ) :
    (fun i => (((Record.ofElement config resolve e).map fun r => (r.index, r.className)).lookup i).getD "") =
      Record.classOf (Record.ofElement config resolve e) := by
  funext i
  rw [lookup_records]
  rfl

theorem lookup_tokens (config : Config) (resolve : Resolver κ) (e : Element κ) :
    (fun i => (((Record.ofElement config resolve e).map fun r =>
      (r.index, (Utility.Compiler.builtin.compile r.styles).tokens)).lookup i).getD []) =
        Record.tokensOf (Record.ofElement config resolve e) := by
  funext i
  rw [lookup_records]
  rfl

/-- The walk meets the root, so its tokens are among those of the records. -/
theorem entry_root (config : Config) (resolve : Resolver κ) (e : Element κ) :
    entry ((Record.ofElement config resolve e).map fun r =>
      (r.index, (Utility.Compiler.builtin.compile r.styles).tokens)) 0 =
        .ok (Record.tokensOf (Record.ofElement config resolve e) 0) := by
  have met : (e.walk config.overlayStem)[0]? = some ⟨0, e.head, none⟩ := rfl
  have first := @Record.getElem?_of_walk κ config resolve e 0 _ met
  simp only [entry, lookup_records, Record.tokensOf, first, Option.map_some, Option.getD_some]

/-- The clipping of an element for what the page answers, and its artifacts. -/
def clip (read : Reader) (config : Config) (resolve : κ → String → Option String) (e : Element κ) :
    Checked (Clip κ × Artifacts) := do
  let records ← records config resolve e
  let compiled ← records.mapM fun r => do
    let output ← compile r.styles
    return (r.index, output)
  let classes := records.map fun r => (r.index, r.className)
  let tokens := compiled.map fun (i, output) => (i, output.tokens)
  let cleaned ← clean config.overlayStem (fun i => (classes.lookup i).getD "") e
  let utility := cleaned.withTokens fun i => (tokens.lookup i).getD []
  let markup ← formatted read config.indentation cleaned.print
  let utilityMarkup ← formatted read config.indentation utility.print
  let rootTokens ← entry tokens 0
  let rules := records.map fun r => (r.className, r.styles)
  return (⟨config, e, records, compiled.map Prod.snd, cleaned, utility⟩,
    ⟨markup, Stylesheet.print config.indentWidth rules, utilityMarkup, rootTokens⟩)

/-- No operation of a clipping is given what it has no result for, whatever the tree is, whatever
the page answers and whatever reader has printed markup to indent; and the clipping is the one that
is computed without tests. -/
theorem clip_without_fault (read : Reader) (config : Config) (resolve : κ → String → Option String)
    (e : Element κ) : clip read config resolve e =
      .ok (Clip.ofElement config (answers resolve) e,
        (Clip.ofElement config (answers resolve) e).artifactsBy read) := by
  unfold clip
  simp only [records_eq, compile_eq, bind_ok, pure_eq]
  rw [mapM_ok fun r _ => rfl, bind_ok]
  simp only [List.map_map, Function.comp_def]
  rw [lookup_classes, lookup_tokens, entry_root, clean_eq, ← cleaned_eq_clean]
  simp only [bind_ok, formatted_eq, Record.tokensOf_eq]
  rfl

end Clipping.Checked

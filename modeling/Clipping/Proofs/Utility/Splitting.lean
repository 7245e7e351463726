import Clipping.Proofs.Assoc.Entries
import Clipping.Proofs.Markup.Clearing
import Clipping.Proofs.Utility.Emitted

/-! Tokens are words, so that they can be listed in one class and told apart again. All rules
take care of the blanks in values but one: the order of an item goes into its token as it is. -/
namespace Clipping.Utility

open Output

variable {κ : Type} {d : Declarations}

/-- A token is a word, unless it is that of the order. -/
theorem word_of_mem_tokens (tracked : ∀ p ∈ d.keys, p ∈ Property.tracked) {t : String}
    (member : t ∈ (Compiler.builtin.compile d).tokens) :
    IsWord t ∨ ∃ v, d.get? "order" = some v ∧ t = "order-[" ++ v ++ "]" := by
  obtain ⟨r, known, -, own⟩ := (mem_emitted_compile tracked).mp (List.mem_eraseDups.mp member)
  exact (spliced_builtin known t own).imp (fun found => ⟨found.1, found.2.isUnbroken⟩) mem_emitted_order

theorem words_iff (tracked : ∀ p ∈ d.keys, p ∈ Property.tracked) :
    (∀ t ∈ (Compiler.builtin.compile d).tokens, IsWord t) ↔
      ∀ v, d.get? "order" = some v → IsUnbroken v := by
  constructor
  · intro words v found
    refine Classical.byContradiction fun broken => ?_
    have emitted : "order-[" ++ v ++ "]" ∈ (flexRule.emit d).emitted := by
      simp only [flexRule, emitted_join, List.mem_flatMap]
      exact ⟨order d, by simp, order_emitted found broken⟩
    have listed := mem_tokens_of_emitted tracked (by simp [builtinRules]) (by decide : "order" ∈ _)
      (Assoc.contains_of_get? found) emitted
    have whole := (words _ listed).2
    exact broken (isUnbroken_append.mp (isUnbroken_append.mp whole).1).2
  · intro unbroken t member
    rcases word_of_mem_tokens tracked member with word | ⟨v, found, rfl⟩
    · exact word
    · refine ⟨by simp, ?_⟩
      exact .append (.append (by decide) (unbroken v found)) (by decide)

/-! Classes. -/

/-- The class of an element lists its tokens. -/
theorem class_withTokens {e : Markup.Element κ} {tokens : Nat → List String} {i : Nat} {h : Markup.Head κ}
    (numbered : (e.withTokens tokens).heads[i]? = some h) :
    h.attributes.value "class" = String.intercalate " " (tokens i) := by
  rw [Markup.Element.withTokens, Markup.Element.heads_mapNumbered, List.getElem?_mapIdx] at numbered
  obtain ⟨old, -, rfl⟩ := Option.map_eq_some_iff.mp numbered
  split
  · next none => simp [List.isEmpty_iff.mp none, Assoc.value, Markup.Head.withClass]
  · simp [Assoc.value]

/-- Each token is a word, unless it is the order of an item, which keeps its blanks. So the class
of an element is split into its tokens again iff the order, if declared, has no blanks. -/
theorem tokens_told_apart (tracked : ∀ p ∈ d.keys, p ∈ Property.tracked) :
    (∀ t ∈ (Compiler.builtin.compile d).tokens,
      IsWord t ∨ ∃ v, d.get? "order" = some v ∧ t = "order-[" ++ v ++ "]") ∧
    ∀ (e : Markup.Element κ) (tokens : Nat → List String) (i : Nat) (h : Markup.Head κ),
      (e.withTokens tokens).heads[i]? = some h → tokens i = (Compiler.builtin.compile d).tokens →
        (split (h.attributes.value "class") = tokens i ↔
          ∀ v, d.get? "order" = some v → IsUnbroken v) := by
  refine ⟨fun t => word_of_mem_tokens tracked, fun e tokens i h numbered own => ?_⟩
  rw [class_withTokens numbered, split_intercalate, own, words_iff tracked]

def flexItem : Markup.Element Unit := ⟨⟨(), "p", .empty⟩, .nil⟩

theorem flexItem_told_apart :
    (∀ p ∈ (Assoc.ofList [("flex", "1 1 50px"), ("order", "2")]).keys, p ∈ Property.tracked) ∧
    (Compiler.builtin.compile (.ofList [("flex", "1 1 50px"), ("order", "2")])).tokens =
      ["flex-[1_1_50px]", "order-[2]"] ∧
    split (((flexItem.withTokens fun _ => ["flex-[1_1_50px]", "order-[2]"]).head.attributes.value "class")) =
      ["flex-[1_1_50px]", "order-[2]"] := by
  have tracked : ∀ p ∈ (Assoc.ofList [("flex", "1 1 50px"), ("order", "2")]).keys,
      p ∈ Property.tracked := by decide
  have compiled : (Compiler.builtin.compile (.ofList [("flex", "1 1 50px"), ("order", "2")])).tokens =
      ["flex-[1_1_50px]", "order-[2]"] := by
    rw [@compile_of_single _ tracked flexRule rfl]
    decide
  refine ⟨tracked, compiled, ?_⟩
  refine ((tokens_told_apart tracked).2 flexItem _ 0 _ rfl compiled.symm).mpr fun v found => ?_
  obtain rfl : "2" = v := Option.some.inj found
  decide

/-- The blank in an order is a blank in its token. -/
theorem order_not_told_apart :
    "order" ∈ Property.tracked ∧ "1 2" ≠ "" ∧ strip "1 2" = "1 2" ∧
    (Compiler.builtin.compile (.ofList [("order", "1 2")])).tokens = ["order-[1 2]"] ∧
    ¬IsWord "order-[1 2]" ∧
    split (((flexItem.withTokens fun _ => ["order-[1 2]"]).head.attributes.value "class")) =
      ["order-[1", "2]"] := by
  have tracked : ∀ p ∈ (Assoc.ofList [("order", "1 2")]).keys, p ∈ Property.tracked := by decide
  refine ⟨by decide, by decide, by decide, ?_, by decide, by decide⟩
  rw [@compile_of_single _ tracked flexRule rfl]
  decide

end Clipping.Utility

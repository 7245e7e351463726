import Clipping.Proofs.Capture.Records
import Clipping.Proofs.Config.Naming
import Clipping.Proofs.Markup.Clearing

/-! The three artifacts tell of the same elements in the same order: the walk that makes
the records, the one that clears the copy and the one that gives it tokens all count alike,
wherever the overlays stand. -/
namespace Clipping

open Markup

variable {κ : Type}

namespace Markup

/-- The head of a cleaned element: neither style nor what frameworks own stays, and the
class is set. -/
def Head.relabelled (className : String) (h : Head κ) : Head κ :=
  ⟨h.key, lower h.tag,
    (h.attributes.filter fun name _ => name != "style" && !isFrameworkAttribute name).set
      "class" className⟩

/-- The class is neither style nor owned by a framework, so it needs no exception. -/
theorem Head.withClass_cleaned {className : String} (named : className ≠ "") (h : Head κ) :
    h.copied.cleaned.withClass className = h.relabelled className := by
  have kept (name : String) (_ : String) :
      (name == "class" || (name != "style" && !isFrameworkAttribute name)) =
        (name != "style" && !isFrameworkAttribute name) := by
    by_cases own : name = "class"
    · subst own; decide
    · simp [own]
  simp only [withClass, String.isEmpty_iff, named, if_false, cleaned, copied, relabelled,
    Assoc.filter_congr kept]

theorem Head.lower_tag_relabelled (className : String) (h : Head κ) :
    lower (h.relabelled className).tag = (h.relabelled className).tag :=
  lower_lower h.tag

theorem Head.class_relabelled (className : String) (h : Head κ) :
    (h.relabelled className).attributes.get? "class" = some className := by
  simp [relabelled]

def Element.IsLower (e : Element κ) : Prop := ∀ h ∈ e.heads, lower h.tag = h.tag

end Markup

/-- Records, the cleaned tree and the tree with tokens of one source, side by side. -/
structure Aligned (config : Config) (resolve : Resolver κ) (source : Element κ)
    (records : List Record) (cleaned utility : Element κ) : Prop where
  /-- The cleaned tree is what clearing the source of overlays leaves, each element with the
  class of its record. -/
  cleared : source.Clears config.overlayStem (fun i h => h.relabelled (Record.classOf records i))
    cleaned records.length
  cleanedLength : cleaned.heads.length = records.length
  utilityLength : utility.heads.length = records.length
  /-- At each place stand the same element, its tag, its class name and its tokens. -/
  placed : ∀ k r, records[k]? = some r → ∃ v h u,
    (source.walk config.overlayStem)[k]? = some v ∧ cleaned.heads[k]? = some h ∧
    utility.heads[k]? = some u ∧
    r = Record.ofVisit config resolve (source.walk config.overlayStem) v ∧ r.index = k ∧
    h.key = v.head.key ∧ u.key = v.head.key ∧ h.tag = lower r.tag ∧ u.tag = lower r.tag ∧
    h.attributes.get? "class" = some r.className ∧
    u.attributes.get? "class" =
      if (Utility.Compiler.builtin.compile r.styles).tokens = [] then none
      else some (String.intercalate " " (Utility.Compiler.builtin.compile r.styles).tokens)
  /-- Without the classes the two trees are equal. -/
  erased : cleaned.mapHeads (·.withClass "") = utility.mapHeads (·.withClass "")
  distinct : (records.map Record.className).Nodup
  /-- Tags that are in lower case stand as they are. -/
  tags : source.IsLower → cleaned.heads.map Head.tag = records.map Record.tag ∧
    utility.heads.map Head.tag = records.map Record.tag

namespace Markup

def Head.withTokens (tokens : List String) (h : Head κ) : Head κ :=
  if tokens.isEmpty then h.copied.withClass ""
  else { h.copied with attributes := h.attributes.set "class" (String.intercalate " " tokens) }

theorem Head.class_withTokens (tokens : List String) (h : Head κ) :
    (h.withTokens tokens).attributes.get? "class" =
      if tokens = [] then none else some (String.intercalate " " tokens) := by
  cases tokens with
  | nil => simp [withTokens, withClass]
  | cons token rest => simp [withTokens]

theorem Head.erase_withTokens (tokens : List String) {h : Head κ} (lowered : lower h.tag = h.tag) :
    (h.withTokens tokens).withClass "" = h.withClass "" := by
  cases tokens with
  | nil => simp [withTokens, withClass, copied, lowered]
  | cons token rest => simp [withTokens, withClass, copied, lowered]

@[simp] theorem Head.key_withTokens (tokens : List String) (h : Head κ) :
    (h.withTokens tokens).key = h.key := by
  unfold withTokens
  split
  · rfl
  · rfl

@[simp] theorem Head.tag_withTokens (tokens : List String) (h : Head κ) :
    (h.withTokens tokens).tag = lower h.tag := by
  unfold withTokens
  split
  · rfl
  · rfl

end Markup

/-- The names that the export gives are those of the records. -/
theorem cleaned_eq_clean (config : Config) (resolve : Resolver κ) (e : Element κ) :
    config.cleaned e =
      e.clean config.overlayStem (Record.classOf (Record.ofElement config resolve e)) := by
  unfold Config.cleaned Element.clean
  refine Element.mapNumbered_congr _ fun i bound => ?_
  rw [Record.classOf_ofElement bound]

theorem cleaned_eq_relabelled (config : Config) (e : Element κ) :
    config.cleaned e = (e.withoutOverlays config.overlayStem).mapNumbered fun i h =>
      h.relabelled (config.className i) := by
  unfold Config.cleaned Element.clean
  exact Element.mapNumbered_congr _ fun i _ =>
    funext fun h => Head.withClass_cleaned (config.className_ne i) h

theorem cleaned_eq (config : Config) (resolve : Resolver κ) (e : Element κ) :
    config.cleaned e = (e.withoutOverlays config.overlayStem).mapNumbered fun i h =>
      h.relabelled (Record.classOf (Record.ofElement config resolve e) i) := by
  rw [cleaned_eq_relabelled]
  refine Element.mapNumbered_congr _ fun i bound => ?_
  rw [Record.classOf_ofElement bound]

theorem utility_eq (config : Config) (resolve : Resolver κ) (e : Element κ) :
    (Clip.ofElement config resolve e).utility =
      (e.withoutOverlays config.overlayStem).mapNumbered fun i h =>
        (h.relabelled (Record.classOf (Record.ofElement config resolve e) i)).withTokens
          (Record.tokensOf (Record.ofElement config resolve e) i) := by
  show (config.cleaned e).withTokens (Clip.tokensOf ((Record.ofElement config resolve e).map _)) = _
  rw [cleaned_eq config resolve e, ← Record.tokensOf_eq]
  exact Element.mapNumbered_mapNumbered _ (fun i h => h.withTokens (Record.tokensOf _ i)) _

theorem erased_eq (config : Config) (resolve : Resolver κ) (e : Element κ) :
    (config.cleaned e).mapHeads (·.withClass "") =
      (Clip.ofElement config resolve e).utility.mapHeads (·.withClass "") := by
  rw [cleaned_eq config resolve, utility_eq, Element.mapHeads_mapNumbered,
    Element.mapHeads_mapNumbered]
  refine Element.mapNumbered_congr _ fun i _ => funext fun h => ?_
  have step := Head.erase_withTokens (Record.tokensOf (Record.ofElement config resolve e) i)
    (Head.lower_tag_relabelled (Record.classOf (Record.ofElement config resolve e) i) h)
  exact step.symm

theorem nodup_className_ofElement (config : Config) (resolve : Resolver κ) (e : Element κ) :
    ((Record.ofElement config resolve e).map Record.className).Nodup := by
  rw [Record.map_className_ofElement, List.nodup_iff_pairwise_ne, List.pairwise_map]
  exact List.nodup_range.imp fun different same => different (config.className_injective same)

/-- At the place of a record the cleaned tree has its element with its class name. -/
theorem cleaned_getElem? {config : Config} {resolve : Resolver κ} {e : Element κ} {k : Nat}
    {r : Record} {h : Head κ} (found : (Record.ofElement config resolve e)[k]? = some r)
    (met : (e.withoutOverlays config.overlayStem).heads[k]? = some h) :
    (config.cleaned e).heads[k]? = some (h.relabelled r.className) := by
  have named : Record.classOf (Record.ofElement config resolve e) k = r.className := by
    simp [Record.classOf, found]
  rw [cleaned_eq config resolve, Element.heads_mapNumbered, List.getElem?_mapIdx, met, ← named]
  rfl

/-- At the place of a record the other tree has that element with its tokens. -/
theorem utility_getElem? {config : Config} {resolve : Resolver κ} {e : Element κ} {k : Nat}
    {r : Record} {h : Head κ} (found : (Record.ofElement config resolve e)[k]? = some r)
    (met : (e.withoutOverlays config.overlayStem).heads[k]? = some h) :
    (Clip.ofElement config resolve e).utility.heads[k]? =
      some ((h.relabelled r.className).withTokens
        (Utility.Compiler.builtin.compile r.styles).tokens) := by
  have named : Record.classOf (Record.ofElement config resolve e) k = r.className := by
    simp [Record.classOf, found]
  have tokens : Record.tokensOf (Record.ofElement config resolve e) k =
      (Utility.Compiler.builtin.compile r.styles).tokens := by
    simp [Record.tokensOf, found]
  rw [utility_eq, Element.heads_mapNumbered, List.getElem?_mapIdx, met, ← named, ← tokens]
  rfl

theorem length_heads_cleaned (config : Config) (resolve : Resolver κ) (e : Element κ) :
    (config.cleaned e).heads.length = (Record.ofElement config resolve e).length := by
  rw [cleaned_eq config resolve, Element.length_heads_mapNumbered, Record.length_ofElement]

theorem length_heads_utility (config : Config) (resolve : Resolver κ) (e : Element κ) :
    (Clip.ofElement config resolve e).utility.heads.length =
      (Record.ofElement config resolve e).length := by
  rw [utility_eq, Element.length_heads_mapNumbered, Record.length_ofElement]

/-- Where tags are in lower case, numbering that leaves the lowered tags leaves the tags. -/
theorem map_tag_mapNumbered {e : Element κ} (lowered : e.IsLower) {f : Nat → Head κ → Head κ}
    (tag : ∀ i h, (f i h).tag = lower h.tag) : (e.mapNumbered f).heads.map Head.tag =
      e.heads.map Head.tag := by
  rw [Element.heads_mapNumbered]
  refine List.ext_getElem (by simp) fun i _ bound => ?_
  rw [List.length_map] at bound
  simp only [List.getElem_map, List.getElem_mapIdx, tag]
  exact lowered _ (List.getElem_mem bound)

theorem Markup.Element.IsLower.withoutOverlays {e : Element κ} (lowered : e.IsLower)
    (stem : String) : (e.withoutOverlays stem).IsLower :=
  fun h member => lowered h ((e.heads_withoutOverlays_sublist stem).subset member)

theorem aligned (config : Config) (resolve : Resolver κ) (e : Element κ) :
    Aligned config resolve e (Record.ofElement config resolve e) (config.cleaned e)
      (Clip.ofElement config resolve e).utility where
  cleared := by
    rw [cleaned_eq config resolve, Record.length_ofElement]
    exact Element.clears_withoutOverlays config.overlayStem _ e
  cleanedLength := length_heads_cleaned config resolve e
  utilityLength := length_heads_utility config resolve e
  placed := by
    intro k r found
    obtain ⟨v, met, made, index, head⟩ := Record.getElem?_ofElement found
    have tag : r.tag = v.head.tag := by rw [made]; rfl
    have number : r.index = k := by rw [made]; exact index
    refine ⟨v, v.head.relabelled r.className, _, met, cleaned_getElem? found head,
      utility_getElem? found head, made, number, rfl, ?_, ?_, ?_, ?_, ?_⟩
    · rw [Head.key_withTokens]; rfl
    · rw [tag]; rfl
    · rw [Head.tag_withTokens, Head.lower_tag_relabelled, tag]; rfl
    · exact Head.class_relabelled r.className v.head
    · exact Head.class_withTokens _ _
  erased := erased_eq config resolve e
  distinct := nodup_className_ofElement config resolve e
  tags := by
    intro lowered
    have left := lowered.withoutOverlays config.overlayStem
    rw [cleaned_eq config resolve, utility_eq, Record.map_tag_ofElement]
    exact ⟨map_tag_mapNumbered left fun _ _ => rfl,
      map_tag_mapNumbered left fun i h => by
        rw [Head.tag_withTokens, Head.lower_tag_relabelled]; rfl⟩

/-- The records, the cleaned copy that takes its class names from them, and the copy of it
that takes their tokens, are aligned whatever the tree and its overlays are. -/
theorem clip_aligned (config : Config) (resolve : Resolver κ) (e : Element κ) :
    let clip := Clip.ofElement config resolve e
    clip.cleaned = e.clean config.overlayStem (Record.classOf clip.records) ∧
    clip.utility = clip.cleaned.withTokens (Record.tokensOf clip.records) ∧
    Aligned config resolve e clip.records clip.cleaned clip.utility := by
  intro clip
  refine ⟨cleaned_eq_clean config resolve e, ?_, aligned config resolve e⟩
  rw [Record.tokensOf_eq]
  rfl

end Clipping

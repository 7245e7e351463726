import Clipping.Proofs.Noise

/-! Cleaning settles: what was cleaned is cleaned to itself, whatever names are given. The
second run meets no overlay, so it counts as the first did, and each element has its class
where the first run left it. -/
namespace Clipping.Markup

variable {κ : Type}

/-- How a cleaned element stands to the one that it was made from, when it is given a class
name; the empty name is no name. -/
structure Head.Tidies (className : String) (h tidy : Head κ) : Prop where
  key : tidy.key = h.key
  tag : tidy.tag = lower h.tag
  /-- No style is left, and nothing that a framework owns. -/
  free : ∀ name ∈ tidy.attributes.keys, isHostAttribute name = false
  /-- Everything else but the class has the value that it had. -/
  kept : ∀ name, isHostAttribute name = false → name ≠ "class" →
    tidy.attributes.get? name = h.attributes.get? name
  named : tidy.attributes.get? "class" = if className = "" then none else some className
  /-- A class that stays has its place, a new one is last, and nothing else is moved. -/
  ordered : tidy.attributes.keys =
    let own := h.attributes.keys.filter (!isHostAttribute ·)
    if className = "" then own.filter (· != "class")
    else if "class" ∈ own then own
    else own ++ ["class"]

/-- How a cleaned tree stands to its source: it has the elements that no overlay holds, each
with the class name of its number. -/
structure Element.Tidies (stem : String) (className : Nat → String) (e tidy : Element κ) : Prop where
  counted : tidy.heads.length = (e.withoutOverlays stem).heads.length
  placed : ∀ i h, (e.withoutOverlays stem).heads[i]? = some h →
    ∃ t, tidy.heads[i]? = some t ∧ Head.Tidies (className i) h t

theorem isHostAttribute_class : isHostAttribute "class" = false := by decide

theorem isHostAttribute_id : isHostAttribute "id" = false := by decide

namespace Head

def tidied (className : String) (h : Head κ) : Head κ := h.copied.cleaned.withClass className

theorem attributes_cleaned (h : Head κ) :
    h.cleaned.attributes = h.attributes.filter fun name _ => !isHostAttribute name := by
  have same (name : String) (_ : String) :
      (name == "class" || (name != "style" && !isFrameworkAttribute name)) =
        !isHostAttribute name := by
    by_cases own : name = "class"
    · subst own
      rw [isHostAttribute_class]
      rfl
    · simp [own, isHostAttribute, bne]
  exact Assoc.filter_congr same

theorem tidied_unnamed (h : Head κ) :
    h.tidied "" = ⟨h.key, lower h.tag,
      (h.attributes.filter fun name _ => !isHostAttribute name).erase "class"⟩ := by
  rw [← attributes_cleaned h]
  rfl

theorem tidied_named {className : String} (named : className ≠ "") (h : Head κ) :
    h.tidied className = ⟨h.key, lower h.tag,
      (h.attributes.filter fun name _ => !isHostAttribute name).set "class" className⟩ := by
  rw [← attributes_cleaned h]
  simp only [tidied, withClass, String.isEmpty_iff, named, if_false]
  rfl

theorem tidies_unnamed (h : Head κ) : h.Tidies "" (h.tidied "") := by
  rw [tidied_unnamed]
  have keys : (Assoc.erase (h.attributes.filter fun name _ => !isHostAttribute name) "class").keys =
      (h.attributes.keys.filter (!isHostAttribute ·)).filter (· != "class") := by
    rw [Assoc.erase, Assoc.keys_filter (· != "class"), Assoc.keys_filter (!isHostAttribute ·)]
  refine ⟨rfl, rfl, ?_, ?_, Assoc.get?_erase_self _ _, keys⟩
  · intro name member
    rw [keys] at member
    simpa using (List.mem_filter.mp (List.mem_filter.mp member).1).2
  · intro name own other
    rw [Assoc.erase, Assoc.get?_filter_of_keep (by simp [other]),
      Assoc.get?_filter_of_keep (by simp [own])]

theorem tidies_named {className : String} (named : className ≠ "") (h : Head κ) :
    h.Tidies className (h.tidied className) := by
  rw [tidied_named named]
  have keys := Assoc.keys_set (h.attributes.filter fun name _ => !isHostAttribute name) "class" className
  rw [Assoc.keys_filter (!isHostAttribute ·)] at keys
  refine ⟨rfl, rfl, ?_, ?_, ?_, ?_⟩
  · intro name member
    have others : name ∈ h.attributes.keys.filter (!isHostAttribute ·) ∨ name = "class" := by
      rw [keys] at member
      split at member
      · exact .inl member
      · simpa using member
    rcases others with member | rfl
    · simpa using (List.mem_filter.mp member).2
    · exact isHostAttribute_class
  · intro name own other
    rw [Assoc.get?_set, if_neg other, Assoc.get?_filter_of_keep (by simp [own])]
  · simp [named]
  · simp only [named, if_false]
    exact keys

theorem tidies (className : String) (h : Head κ) : h.Tidies className (h.tidied className) := by
  by_cases named : className = ""
  · subst named
    exact tidies_unnamed h
  · exact tidies_named named h

theorem tidied_tidied (className : String) (h : Head κ) :
    (h.tidied className).tidied className = h.tidied className := by
  by_cases named : className = ""
  · subst named
    rw [tidied_unnamed, tidied_unnamed, lower_lower, Assoc.filter_erase, Assoc.filter_filter_self,
      Assoc.erase_erase]
  · rw [tidied_named named, tidied_named named, lower_lower,
      Assoc.filter_set (!isHostAttribute ·) (by simp [isHostAttribute_class]),
      Assoc.filter_filter_self, Assoc.set_set]

/-- The id is no attribute of the host, so a cleaned element is an overlay only if it was one. -/
theorem hasIdStem_tidied (stem className : String) (h : Head κ) :
    (h.tidied className).hasIdStem stem = h.hasIdStem stem := by
  have same := (h.tidies className).kept "id" isHostAttribute_id (by decide)
  simp only [hasIdStem, id, Assoc.value, same]

end Head

namespace Element

theorem clean_eq (stem : String) (className : Nat → String) (e : Element κ) :
    e.clean stem className =
      (e.withoutOverlays stem).mapNumbered fun i h => h.tidied (className i) := rfl

/-- No element of a cleaned tree is an overlay, so nothing is left out of it again. -/
theorem withoutOverlays_clean (stem : String) (className : Nat → String) (e : Element κ) :
    (e.clean stem className).withoutOverlays stem = e.clean stem className := by
  have free : ∀ h ∈ (e.clean stem className).content.heads, h.hasIdStem stem = false := by
    intro h member
    simp only [clean_eq, mapNumbered, Content.heads_mapNumbered] at member
    obtain ⟨i, bound, rfl⟩ := List.mem_mapIdx.mp member
    rw [Head.hasIdStem_tidied]
    exact Content.of_mem_prune (List.getElem_mem bound)
  simp only [withoutOverlays, Content.prune_eq_self free]

theorem tidies_clean (stem : String) (className : Nat → String) (e : Element κ) :
    e.Tidies stem className (e.clean stem className) where
  counted := by rw [clean_eq, length_heads_mapNumbered]
  placed := by
    intro i h met
    refine ⟨h.tidied (className i), ?_, h.tidies (className i)⟩
    rw [clean_eq, heads_mapNumbered, List.getElem?_mapIdx, met]
    rfl

end Element

/-- Cleaning what was cleaned under the same names changes nothing. -/
theorem clean_settles (stem : String) (className : Nat → String) (e : Element κ) :
    (e.clean stem className).clean stem className = e.clean stem className ∧
    e.Tidies stem className (e.clean stem className) := by
  refine ⟨?_, e.tidies_clean stem className⟩
  calc (e.clean stem className).clean stem className
      = (e.clean stem className).mapNumbered fun i h => h.tidied (className i) := by
        rw [Element.clean_eq, Element.withoutOverlays_clean]
    _ = (e.withoutOverlays stem).mapNumbered fun i h => (h.tidied (className i)).tidied (className i) := by
        rw [Element.clean_eq, Element.mapNumbered_mapNumbered]
    _ = e.clean stem className := by
        simp only [Head.tidied_tidied, Element.clean_eq]

end Clipping.Markup

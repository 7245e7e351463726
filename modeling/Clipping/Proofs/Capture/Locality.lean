import Clipping.Proofs.Capture.Elision
import Clipping.Proofs.Capture.Positions

/-! Styles act locally. A record takes from the page what it answers for its own element, and of
text what it answers for the element around it, so another answer for one element shows in its
own record and in those of its children, and there in nothing but text. -/
namespace Clipping

open Markup

variable {κ : Type}

namespace Sieve

variable {s : Sieve} {tag : String} {values : String → String}

/-- What no parent hands down is declared alike below any parent. -/
theorem declared?_congr_parent {p : String} (own : p ∉ Property.text)
    (parent other : Option (String → String)) :
    s.declared? tag values parent p = s.declared? tag values other p := by
  have alone (above : Option (String → String)) : isHandedDown above p (values p) = false :=
    Bool.eq_false_iff.mpr fun down => own (isHandedDown_iff.mp down).1
  simp only [declared?, alone]

theorem get?_compare_congr_parent {p : String} (own : p ∉ Property.text)
    (parent other : Option (String → String)) :
    (s.compare tag values parent).get? p = (s.compare tag values other).get? p := by
  rw [get?_compare, get?_compare, declared?_congr_parent own parent other]

end Sieve

/-- The page answers alike in two ways for every element of the tree but those with a key. -/
def Resolver.AgreesApart (resolve : Resolver κ) (e : Element κ) (key : κ) (resolve' : Resolver κ) : Prop :=
  ∀ h ∈ e.heads, h.key ≠ key → ∀ property, resolve h.key property = resolve' h.key property

theorem Resolver.AgreesApart.values_eq {resolve resolve' : Resolver κ} {e : Element κ} {key : κ}
    (agree : resolve.AgreesApart e key resolve') {stem : String} {v : Visit κ} (met : v ∈ e.walk stem)
    (other : v.head.key ≠ key) : resolve.values v.head.key = resolve'.values v.head.key :=
  funext fun property =>
    congrArg strip (agree v.head (Element.head_mem_of_mem_walk met) other property)

namespace Record

variable {config : Config} {resolve resolve' : Resolver κ} {e : Element κ} {key : κ}

/-- Any other element differs in what its parent hands down at most. -/
theorem get?_ofVisit_congr (agree : resolve.AgreesApart e key resolve') {v : Visit κ}
    (met : v ∈ e.walk config.overlayStem) (other : v.head.key ≠ key) {p : String} (own : p ∉ Property.text) :
    (ofVisit config resolve (e.walk config.overlayStem) v).styles.get? p =
      (ofVisit config resolve' (e.walk config.overlayStem) v).styles.get? p := by
  simp only [ofVisit, agree.values_eq met other]
  exact Sieve.get?_compare_congr_parent own _ _

/-- Where the element and its parent are others, the records are the same. -/
theorem ofVisit_congr (agree : resolve.AgreesApart e key resolve') {i : Nat} {v : Visit κ}
    (found : (e.walk config.overlayStem)[i]? = some v) (other : v.head.key ≠ key)
    (apart : ∀ a, e.Holds a v.head → a.key ≠ key) :
    ofVisit config resolve (e.walk config.overlayStem) v =
      ofVisit config resolve' (e.walk config.overlayStem) v := by
  have values := agree.values_eq (List.mem_of_getElem? found) other
  rcases Element.parent_walk found with ⟨-, root, -⟩ | ⟨j, a, parent, -, above, holds⟩
  · simp only [ofVisit, root, Option.bind_none, Option.map_none, values]
  · have handed := agree.values_eq (List.mem_of_getElem? above) (apart a.head holds)
    simp only [ofVisit, parent, Option.bind_some, above, Option.map_some, values, handed]

end Record

/-- Two lists of records of one tree that differ only around the element with a key. -/
structure DifferAround (config : Config) (e : Element κ) (key : κ) (records others : List Record) :
    Prop where
  length : records.length = others.length
  /-- The records tell of the same elements under the same names. -/
  labels : ∀ (i : Nat) (r r' : Record), records[i]? = some r → others[i]? = some r' →
    r.index = r'.index ∧ r.tag = r'.tag ∧ r.className = r'.className
  /-- The record of an element that is neither that one nor one of its children is the same, and
  so are its tokens. -/
  elsewhere : ∀ (i : Nat) (v : Visit κ), (e.walk config.overlayStem)[i]? = some v → v.head.key ≠ key →
    (∀ a, e.Holds a v.head → a.key ≠ key) →
      (∃ r, records[i]? = some r ∧ others[i]? = some r) ∧
        Record.tokensOf records i = Record.tokensOf others i
  /-- A child, as any other element, has the same declarations but for text. -/
  below : ∀ (i : Nat) (v : Visit κ), (e.walk config.overlayStem)[i]? = some v → v.head.key ≠ key →
    ∃ r r' : Record, records[i]? = some r ∧ others[i]? = some r' ∧
      ∀ p ∉ Property.text, r.styles.get? p = r'.styles.get? p

/-- What a page answers for one element shows in the records of that element and of its children
alone, and in the children's in nothing but properties of text. -/
theorem styles_act_locally (config : Config) (e : Element κ) (key : κ) (resolve resolve' : Resolver κ)
    (agree : resolve.AgreesApart e key resolve') :
    DifferAround config e key (Record.ofElement config resolve e) (Record.ofElement config resolve' e) where
  length := by rw [Record.length_ofElement, Record.length_ofElement]
  labels := by
    intro i r r' found found'
    obtain ⟨v, met, rfl, -⟩ := Record.getElem?_ofElement found
    obtain ⟨v', met', rfl, -⟩ := Record.getElem?_ofElement found'
    obtain rfl : v = v' := Option.some.inj (met.symm.trans met')
    exact ⟨rfl, rfl, rfl⟩
  elsewhere := by
    intro i v met other apart
    have record (resolve : Resolver κ) : (Record.ofElement config resolve e)[i]? =
        some (Record.ofVisit config resolve (e.walk config.overlayStem) v) := Record.getElem?_of_walk met
    have record' := record resolve'
    rw [← Record.ofVisit_congr agree met other apart] at record'
    refine ⟨⟨_, record resolve, record'⟩, ?_⟩
    rw [Record.tokensOf, Record.tokensOf, record resolve, record']
  below := by
    intro i v met other
    refine ⟨_, _, Record.getElem?_of_walk met, Record.getElem?_of_walk met, fun p own => ?_⟩
    exact Record.get?_ofVisit_congr agree (List.mem_of_getElem? met) other own

def nestedParagraph : Element Nat :=
  .new 0 "div" .empty (.element (.new 1 "p" .empty) (.element (.new 2 "b" .empty) .nil .nil) .nil)

def painted (own : String) : Resolver Nat := fun key property =>
  if property = "display" then "grid"
  else if property = "color" then (if key = 1 then own else "red")
  else ""

theorem styles_act_locally_painted :
    (painted "red").AgreesApart nestedParagraph 1 (painted "blue") ∧
    DifferAround .standard nestedParagraph 1 (Record.ofElement .standard (painted "red") nestedParagraph)
      (Record.ofElement .standard (painted "blue") nestedParagraph) := by
  have agree : (painted "red").AgreesApart nestedParagraph 1 (painted "blue") := by
    intro h _ other property
    simp [painted, other]
  exact ⟨agree, styles_act_locally .standard nestedParagraph 1 _ _ agree⟩

end Clipping

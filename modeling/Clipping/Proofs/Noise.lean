import Clipping.Proofs.Alignment
import Clipping.Proofs.Markup.Printed
import Mathlib.Logic.Relation

/-! What a host adds to a page is not seen in a clipping: overlays, inline styles, the
attributes of frameworks and the page's own classes. One change by the host leaves what a
clipping takes of a tree as it is, and so does any number of them. -/
namespace Clipping

open Markup

variable {κ μ : Type}

namespace Markup

/-- The attributes of the host: the style and what frameworks leave behind. -/
def isHostAttribute (name : String) : Bool := name == "style" || isFrameworkAttribute name

/-- One change by the host: an attribute of its own comes, goes or changes, wherever it
stands, or a class that is there changes. -/
inductive Attributes.Disturbed : Attributes → Attributes → Prop where
  | added {a a' : Attributes} {front back name value} : isHostAttribute name = true →
      a.entries = front ++ back → a'.entries = front ++ (name, value) :: back → Disturbed a a'
  | removed {a a' : Attributes} {front back name value} : isHostAttribute name = true →
      a.entries = front ++ (name, value) :: back → a'.entries = front ++ back → Disturbed a a'
  | changed {a a' : Attributes} {front back name value other} :
      isHostAttribute name = true ∨ name = "class" →
      a.entries = front ++ (name, value) :: back →
      a'.entries = front ++ (name, other) :: back → Disturbed a a'

/-- An element is changed by the host, or stands as another object in another tree. -/
inductive Head.Disturbed : Head κ → Head κ → Prop where
  | attributes {key tag a a'} : a.Disturbed a' → Disturbed ⟨key, tag, a⟩ ⟨key, tag, a'⟩
  | key {key key' tag a} : Disturbed ⟨key, tag, a⟩ ⟨key', tag, a⟩

/-- One change by the host somewhere in a content: an overlay comes or goes with all that
it holds, or an element is changed. -/
inductive Content.Disturbed (stem : String) : Content κ → Content κ → Prop where
  | inserted {head inner rest} : head.hasIdStem stem = true →
      Disturbed stem rest (.element head inner rest)
  | deleted {head inner rest} : head.hasIdStem stem = true →
      Disturbed stem (.element head inner rest) rest
  | head {head head' inner rest} : head.Disturbed head' →
      Disturbed stem (.element head inner rest) (.element head' inner rest)
  | inside {head inner inner' rest} : Disturbed stem inner inner' →
      Disturbed stem (.element head inner rest) (.element head inner' rest)
  | afterText {run rest rest'} : Disturbed stem rest rest' →
      Disturbed stem (.text run rest) (.text run rest')
  | afterElement {head inner rest rest'} : Disturbed stem rest rest' →
      Disturbed stem (.element head inner rest) (.element head inner rest')

/-- One change by the host in a tree. The root may be changed, but it is never an overlay. -/
inductive Element.Disturbed (stem : String) : Element κ → Element κ → Prop where
  | head {head head' content} : head.Disturbed head' → Disturbed stem ⟨head, content⟩ ⟨head', content⟩
  | content {head content content'} : content.Disturbed stem content' →
      Disturbed stem ⟨head, content⟩ ⟨head, content'⟩

/-- The attributes without those of the host, and with an empty class. -/
def Attributes.quiet (a : Attributes) : Attributes :=
  (a.filter fun name _ => !isHostAttribute name).set "class" ""

/-- What a clipping takes of an element, whichever object it is. -/
def Head.quiet (h : Head κ) : Head Unit := ⟨(), h.tag, h.attributes.quiet⟩

theorem Attributes.Disturbed.quiet_eq {a a' : Attributes} (disturbed : a.Disturbed a') :
    a.quiet = a'.quiet := by
  apply Assoc.ext
  show putEntry "class" "" (a.entries.filter fun entry => !isHostAttribute entry.1) =
    putEntry "class" "" (a'.entries.filter fun entry => !isHostAttribute entry.1)
  cases disturbed with
  | added host before after => simp [before, after, host]
  | removed host before after => simp [before, after, host]
  | @changed front back name value other own before after =>
    rw [before, after]
    rcases own with host | rfl
    · simp [host]
    · have absent : "class" ∉ (front.filter fun entry => !isHostAttribute entry.1).map Prod.fst := by
        have distinct := a.distinct
        rw [before, List.map_append, List.map_cons] at distinct
        have apart := (List.nodup_append.mp distinct).2.2
        exact fun member =>
          apart "class" ((List.filter_sublist.map _).subset member) "class" List.mem_cons_self rfl
      have kept : isHostAttribute "class" = false := by decide
      simp only [List.filter_append, List.filter_cons, kept, Bool.not_false, if_true,
        putEntry_append_cons absent]

/-- The id is no attribute of the host. -/
theorem Attributes.Disturbed.id_eq {a a' : Attributes} (disturbed : a.Disturbed a') :
    a.value "id" = a'.value "id" := by
  have kept : isHostAttribute "id" = false := by decide
  have answer (b : Attributes) : b.get? "id" = b.quiet.get? "id" := by
    simp [quiet, Assoc.get?_filter_of_keep, kept]
  unfold Assoc.value
  rw [answer a, answer a', disturbed.quiet_eq]

theorem Head.Disturbed.quiet_eq {h h' : Head κ} (disturbed : h.Disturbed h') : h.quiet = h'.quiet := by
  cases disturbed with
  | attributes change => simp only [quiet, change.quiet_eq]
  | key => rfl

theorem Head.Disturbed.hasIdStem_eq {h h' : Head κ} (disturbed : h.Disturbed h') (stem : String) :
    h.hasIdStem stem = h'.hasIdStem stem := by
  cases disturbed with
  | attributes change => simp only [hasIdStem, id, change.id_eq]
  | key => rfl

def Content.quiet (stem : String) (c : Content κ) : Content Unit :=
  (c.prune (·.hasIdStem stem)).mapHeads Head.quiet

/-- One change by the host leaves what a clipping takes as it is. -/
theorem Content.Disturbed.quiet_eq {stem : String} {c c' : Content κ} (disturbed : c.Disturbed stem c') :
    c.quiet stem = c'.quiet stem := by
  unfold Content.quiet
  induction disturbed with
  | inserted owned => simp [prune, owned]
  | deleted owned => simp [prune, owned]
  | @head head head' inner rest change =>
    cases owned : head.hasIdStem stem with
    | true => simp [prune, owned, ← change.hasIdStem_eq stem]
    | false => simp [prune, owned, ← change.hasIdStem_eq stem, mapHeads, change.quiet_eq]
  | @inside head inner inner' rest _ ih =>
    cases owned : head.hasIdStem stem with
    | true => simp [prune, owned]
    | false => simp [prune, owned, mapHeads, ih]
  | afterText _ ih => simp [prune, mapHeads, ih]
  | @afterElement head inner rest rest' _ ih =>
    cases owned : head.hasIdStem stem with
    | true => simp [prune, owned, ih]
    | false => simp [prune, owned, mapHeads, ih]

def Element.quiet (stem : String) (e : Element κ) : Element Unit :=
  ⟨e.head.quiet, e.content.quiet stem⟩

theorem Element.quiet_eq (stem : String) (e : Element κ) :
    e.quiet stem = (e.withoutOverlays stem).mapHeads Head.quiet := rfl

theorem Element.Disturbed.quiet_eq {stem : String} {e e' : Element κ} (disturbed : e.Disturbed stem e') :
    e.quiet stem = e'.quiet stem := by
  cases disturbed with
  | head change => simp only [quiet, change.quiet_eq]
  | content change => simp only [quiet, change.quiet_eq]

/-- Any number of changes by the host leave it as it is. -/
theorem Element.quiet_eq_of_disturbed {stem : String} {e e' : Element κ}
    (noise : Relation.ReflTransGen (Element.Disturbed stem) e e') : e.quiet stem = e'.quiet stem := by
  induction noise with
  | refl => rfl
  | tail _ step ih => rw [ih, step.quiet_eq]

theorem Content.visits_mapHeads (g : Head κ → Head μ) (parent next : Nat) (c : Content κ) :
    (c.mapHeads g).visits parent next =
      (c.visits parent next).map fun v => ⟨v.index, g v.head, v.parent⟩ := by
  induction c generalizing parent next with
  | nil => rfl
  | text run rest ih => exact ih parent next
  | element head inner rest ih₁ ih₂ => simp [mapHeads, visits, heads_mapHeads, ih₁, ih₂]

theorem Element.visits_quiet (stem : String) (e : Element κ) :
    (e.quiet stem).visits = (e.walk stem).map fun v => ⟨v.index, v.head.quiet, v.parent⟩ := by
  simp [quiet_eq, walk, visits, mapHeads, Content.visits_mapHeads]

theorem Head.relabelled_quiet (className : String) (h : Head κ) :
    h.quiet.relabelled className = (h.relabelled className).withKey () := by
  have kept : isHostAttribute "class" = false := by decide
  have own (name : String) (_ : String) :
      (name != "style" && !isFrameworkAttribute name) = !isHostAttribute name := by
    simp [isHostAttribute, bne]
  simp only [relabelled, quiet, withKey, Attributes.quiet, Assoc.filter_congr own]
  congr 1
  apply Assoc.ext
  simp only [Assoc.set, Assoc.filter]
  rw [filter_putEntry_of_keep (fun name => !isHostAttribute name) (by simp [kept]),
    putEntry_putEntry, List.filter_filter]
  simp

theorem Element.unkeyed_withTokens (tokens : Nat → List String) (e : Element κ) :
    (e.withTokens tokens).unkeyed = e.unkeyed.withTokens tokens := by
  unfold unkeyed withTokens
  rw [mapHeads_mapNumbered, mapNumbered_mapHeads]
  refine mapNumbered_congr _ fun i _ => funext fun h => ?_
  cases absent : (tokens i).isEmpty with
  | true => simp [Head.withKey, Head.copied, Head.withClass]
  | false => simp [Head.withKey, Head.copied]

end Markup

/-- The cleaned copy shows no more of a tree than a clipping takes. -/
theorem Config.unkeyed_cleaned (c : Config) (e : Element κ) :
    (c.cleaned e).unkeyed =
      (e.quiet c.overlayStem).mapNumbered fun i h => h.relabelled (c.className i) := by
  rw [cleaned_eq_relabelled, Element.unkeyed, Element.mapHeads_mapNumbered, Element.quiet_eq,
    Element.mapNumbered_mapHeads]
  exact Element.mapNumbered_congr _ fun i _ => funext fun h =>
    (Head.relabelled_quiet (c.className i) h).symm

/-- The elements that no overlay holds have the same answers, each in its place. -/
def Resolver.Agrees (stem : String) (resolve : Resolver κ) (e : Element κ) (resolve' : Resolver μ)
    (e' : Element μ) : Prop :=
  ∀ (i : Nat) (h : Head κ) (h' : Head μ), (e.withoutOverlays stem).heads[i]? = some h →
    (e'.withoutOverlays stem).heads[i]? = some h' → resolve h.key = resolve' h'.key

/-- What the record of an element is made from. -/
structure Sight where
  index : Nat
  tag : String
  parent : Option Nat
  values : String → String

namespace Sight

def ofVisit (resolve : Resolver κ) (v : Visit κ) : Sight :=
  ⟨v.index, v.head.tag, v.parent, resolve.values v.head.key⟩

def ofElement (stem : String) (resolve : Resolver κ) (e : Element κ) : List Sight :=
  (e.walk stem).map (ofVisit resolve)

def record (config : Config) (all : List Sight) (s : Sight) : Record :=
  ⟨s.index, s.tag, config.className s.index, Sieve.standard.compare s.tag s.values
    ((s.parent.bind fun i => all[i]?).map values)⟩

/-- Where trees are alike but for the host, and elements in one place have the same
answers, every element is seen alike. -/
theorem ofElement_congr {stem : String} {e : Element κ} {e' : Element μ}
    (same : e.quiet stem = e'.quiet stem) {resolve : Resolver κ} {resolve' : Resolver μ}
    (agree : resolve.Agrees stem e resolve' e') :
    ofElement stem resolve e = ofElement stem resolve' e' := by
  have walks := congrArg Element.visits same
  rw [Element.visits_quiet, Element.visits_quiet] at walks
  apply List.ext_getElem?
  intro i
  have place := congrArg (·[i]?) walks
  simp only [ofElement, List.getElem?_map] at place ⊢
  cases met : (e.walk stem)[i]? with
  | none =>
    rw [met] at place
    rw [Option.map_eq_none_iff.mp place.symm]
    rfl
  | some v =>
    rw [met] at place
    obtain ⟨v', met', like⟩ := Option.map_eq_some_iff.mp place.symm
    simp only [Visit.mk.injEq, Head.quiet, Head.mk.injEq] at like
    obtain ⟨index, ⟨-, tag, -⟩, parent⟩ := like
    have answers : resolve v.head.key = resolve' v'.head.key :=
      agree i v.head v'.head (Element.getElem?_visits met).2 (Element.getElem?_visits met').2
    have values : resolve.values v.head.key = resolve'.values v'.head.key :=
      funext fun property => congrArg strip (congrFun answers property)
    simp [met', ofVisit, index, tag, parent, values]

end Sight

theorem Record.ofElement_eq_sights (config : Config) (resolve : Resolver κ) (e : Element κ) :
    ofElement config resolve e =
      (Sight.ofElement config.overlayStem resolve e).map
        (Sight.record config (Sight.ofElement config.overlayStem resolve e)) := by
  simp only [ofElement, Sight.ofElement, List.map_map]
  refine List.map_congr_left fun v _ => ?_
  simp only [ofVisit, Sight.record, Sight.ofVisit, Function.comp_apply, Record.mk.injEq, true_and]
  congr 1
  cases v.parent with
  | none => rfl
  | some i => simp [Function.comp_def, Sight.ofVisit]

/-- What is printed of a clipping does not tell which objects the elements were. -/
theorem Clip.artifacts_congr {clip : Clip κ} {clip' : Clip μ} (config : clip.config = clip'.config)
    (records : clip.records = clip'.records) (outputs : clip.outputs = clip'.outputs)
    (cleaned : clip.cleaned.unkeyed = clip'.cleaned.unkeyed)
    (utility : clip.utility.unkeyed = clip'.utility.unkeyed) : clip.artifacts = clip'.artifacts := by
  have markup : clip.cleaned.print = clip'.cleaned.print := by
    rw [← Element.print_unkeyed, cleaned, Element.print_unkeyed]
  have tokens : clip.utility.print = clip'.utility.print := by
    rw [← Element.print_unkeyed, utility, Element.print_unkeyed]
  simp only [artifacts, artifactsBy, config, records, outputs, markup, tokens]

/-- Whatever the host does to a page, its clipping stays the same, as long as the elements
that no overlay holds have the same answers. -/
theorem host_unseen (config : Config) {e e' : Element κ}
    (noise : Relation.ReflTransGen (Element.Disturbed config.overlayStem) e e')
    (resolve resolve' : Resolver κ) (agree : resolve.Agrees config.overlayStem e resolve' e') :
    (Clip.ofElement config resolve e).artifacts = (Clip.ofElement config resolve' e').artifacts ∧
    (Clip.ofElement config resolve e).records = (Clip.ofElement config resolve' e').records ∧
    (Clip.ofElement config resolve e).outputs = (Clip.ofElement config resolve' e').outputs := by
  have same := Element.quiet_eq_of_disturbed noise
  have records : (Clip.ofElement config resolve e).records =
      (Clip.ofElement config resolve' e').records := by
    show Record.ofElement config resolve e = Record.ofElement config resolve' e'
    rw [Record.ofElement_eq_sights, Record.ofElement_eq_sights, Sight.ofElement_congr same agree]
  have outputs : (Clip.ofElement config resolve e).outputs =
      (Clip.ofElement config resolve' e').outputs := by
    simp only [Clip.ofElement] at records ⊢
    rw [records]
  have cleaned : (config.cleaned e).unkeyed = (config.cleaned e').unkeyed := by
    rw [config.unkeyed_cleaned, config.unkeyed_cleaned, same]
  refine ⟨Clip.artifacts_congr rfl records outputs cleaned ?_, records, outputs⟩
  show ((config.cleaned e).withTokens (Clip.tokensOf (Clip.ofElement config resolve e).outputs)).unkeyed =
    ((config.cleaned e').withTokens (Clip.tokensOf (Clip.ofElement config resolve' e').outputs)).unkeyed
  rw [Element.unkeyed_withTokens, Element.unkeyed_withTokens, cleaned, outputs]

def paragraph (attributes : List (String × String)) : Content Nat :=
  .element (.new 1 "p" (.ofList attributes)) (.text "b" .nil) .nil

/-- A page, and the same page while a host shows an overlay between two runs of text. -/
def quietPage : Element Nat := .new 0 "div" .empty (.text "a" (paragraph [("class", "x")]))

def pickedPage : Element Nat :=
  .new 0 "div" .empty (.text "a" (.element (.new 7 "i" (.ofList [("id", "__html-picker-box")]))
    (.text "here" .nil) (paragraph [("data-picked", ""), ("class", "x hovered")])))

theorem host_unseen_while_picking :
    Relation.ReflTransGen (Element.Disturbed Config.standard.overlayStem) quietPage pickedPage ∧
    (Clip.ofElement Config.standard (fun _ _ => "red") quietPage).artifacts =
      (Clip.ofElement Config.standard (fun key _ => if key = 7 then "none" else "red")
        pickedPage).artifacts := by
  have marked : (paragraph [("class", "x")]).Disturbed "__html-picker"
      (paragraph [("data-picked", ""), ("class", "x")]) :=
    .head (.attributes (.added (show isHostAttribute "data-picked" = true by decide)
      (List.nil_append _).symm rfl))
  have hovered : (paragraph [("data-picked", ""), ("class", "x")]).Disturbed "__html-picker"
      (paragraph [("data-picked", ""), ("class", "x hovered")]) :=
    .head (.attributes (@Attributes.Disturbed.changed _ _ [("data-picked", "")] _ _ _ _ (.inr rfl)
      rfl rfl))
  have noise : Relation.ReflTransGen (Element.Disturbed Config.standard.overlayStem)
      quietPage pickedPage :=
    .head (.content (.afterText marked)) (.head (.content (.afterText hovered))
      (.single (.content (.afterText (.inserted (by decide))))))
  refine ⟨noise, (host_unseen Config.standard noise _ _ ?_).1⟩
  rintro (_ | _ | i) h h' found found'
  · obtain rfl := Option.some.inj found
    obtain rfl := Option.some.inj found'
    rfl
  · obtain rfl := Option.some.inj found
    obtain rfl := Option.some.inj found'
    rfl
  · cases found

end Clipping

import HeadAudit.Proofs.Live.Elements
import HeadAudit.Proofs.Markup.Locations

namespace HeadAudit

open List

structure Blank {ν : Type} (a : Adapter ν) (x : ν) : Prop where
  isElement : a.isElement x = false
  tagName : a.tagName x = ""
  textContent : a.textContent x = ""
  startTag : a.startTag x = ""
  attr : ∀ name, a.attr x name = none
  hasAttr : ∀ name, a.hasAttr x name = false
  attrNames : a.attrNames x = []
  children : a.children x = []
  location : a.location x = none
  selects : ∀ pattern, a.selects x pattern = false

/-- Every question has the answer of a missing node. -/
structure Missing {ν : Type} [DecidableEq ν] (a : Adapter ν) (x : ν) : Prop extends Blank a x where
  parent : a.parent x = none
  siblings : a.siblings x = []

/-- What is shown of a node that is no element, where `Holds p` says that it hangs right under
`p`. -/
structure ShowsNonElement {ν : Type} [DecidableEq ν] (a : Adapter ν) (x : ν) (Holds : ν → Prop) :
    Prop where
  blank : Blank a x
  missing_iff : Missing a x ↔ ∀ p, a.isElement p → ¬ Holds p
  around : ∀ p, a.isElement p → Holds p → a.parent x = some p ∧ a.siblings x = a.children p

section Adapters

variable {ν : Type} {a : Adapter ν} {x : ν}

theorem selects_eq_false (he : a.isElement x = false) (pattern : String) :
    a.selects x pattern = false := by
  rw [Adapter.selects, Option.any_eq_false]
  intro s _
  rw [Selector.holds, he]
  rfl

theorem startTag_eq_empty (he : a.isElement x = false) : a.startTag x = "" := by
  rw [Adapter.startTag, he, if_neg Bool.false_ne_true]

theorem blank_of (isElement : a.isElement x = false) (tagName : a.tagName x = "")
    (textContent : a.textContent x = "") (attr : ∀ name, a.attr x name = none)
    (attrNames : a.attrNames x = []) (children : a.children x = [])
    (location : a.location x = none) : Blank a x where
  isElement := isElement
  tagName := tagName
  textContent := textContent
  startTag := startTag_eq_empty isElement
  attr := attr
  hasAttr := fun name => by rw [Adapter.hasAttr, attr, Option.isSome_none]
  attrNames := attrNames
  children := children
  location := location
  selects := selects_eq_false isElement

variable [DecidableEq ν]

theorem Blank.missing (h : Blank a x) (hp : a.parent x = none) : Missing a x :=
  { h with
    parent := hp
    siblings := by rw [Adapter.siblings, hp] }

theorem Blank.shows {Holds : ν → Prop} (h : Blank a x)
    (hc : ∀ p, ∀ c ∈ a.children p, a.isElement c)
    (hp : ∀ p, a.parent x = some p ↔ a.isElement p ∧ Holds p) : ShowsNonElement a x Holds := by
  constructor
  case blank => exact h
  case missing_iff =>
    constructor
    · intro hm p he hx
      exact absurd (hm.parent.symm.trans ((hp p).mpr ⟨he, hx⟩)) nofun
    · intro hno
      apply h.missing
      cases hx : a.parent x with
      | none => rfl
      | some p => exact absurd ((hp p).mp hx).2 (hno p ((hp p).mp hx).1)
  case around =>
    intro p he hx
    have hpx : a.parent x = some p := (hp p).mpr ⟨he, hx⟩
    refine ⟨hpx, ?_⟩
    rw [Adapter.siblings, hpx]
    apply filter_eq_self.mpr
    intro c hcp
    have hce := hc p c hcp
    apply decide_eq_true
    rintro rfl
    rw [h.isElement] at hce
    exact Bool.false_ne_true hce

end Adapters

namespace Live.Tree

variable {t : Tree} {x : NodeId}

theorem blank_adapter (he : t.isElement x = false) : Blank t.adapter x := by
  have hattrs : ∀ n, t.get? x = some n → n.tag? = none ∧ n.attrs = [] := by
    intro n hn
    rw [isElement, hn, Option.any_some, Node.isElement] at he
    rw [Node.tag?, Node.attrs]
    cases hc : n.content with
    | element tag attrs =>
      rw [hc] at he
      cases he
    | _ => exact ⟨rfl, rfl⟩
  apply blank_of he
  case tagName =>
    change ((t.get? x).bind Node.tag?).getD "" = ""
    rw [Option.bind_eq_none_iff.mpr fun n hn => (hattrs n hn).1, Option.getD_none]
  case textContent =>
    change (if t.isElement x then t.textContent x else "") = ""
    rw [he, if_neg Bool.false_ne_true]
  case attr =>
    intro name
    change (t.get? x).bind (fun n => Attributes.get? n.attrs name) = none
    rw [Option.bind_eq_none_iff]
    intro n hn
    rw [(hattrs n hn).2]
    rfl
  case attrNames =>
    change ((t.get? x).map (·.attrs.map (·.1))).getD [] = []
    cases hn : t.get? x with
    | none => rfl
    | some n => rw [Option.map_some, (hattrs n hn).2, map_nil, Option.getD_some]
  case children =>
    change (if t.isElement x then (t.children x).filter t.isElement else []) = []
    rw [he, if_neg Bool.false_ne_true]
  case location => rfl

theorem Forest.shows_adapter (h : t.Forest t.children) (he : t.isElement x = false) :
    ShowsNonElement t.adapter x fun p => x ∈ t.children p := by
  apply (blank_adapter he).shows
  · exact fun p c hc => (mem_adapter_children.mp hc).2.2
  · intro p
    rw [h.linked.mem_iff]
    exact adapter_under_iff.trans and_comm

end Live.Tree

namespace Markup

variable {d : Document} {locations : Option LocationTable} {place p q : Place}

namespace Document

theorem mem_children :
    q ∈ d.children p ↔ d.isElement p ∧ d.isElement q ∧ ∃ i, q = .child i :: p := by
  have hget : ∀ i, d.isElement (.child i :: p) ↔ ∃ n, (d.below p)[i]? = some n ∧ n.isElement := by
    intro i
    rw [isElement, get?_child, Option.any_eq_true]
  by_cases he : d.isElement p
  · rw [children, if_pos he, mem_filterMap, and_iff_right he]
    constructor
    · rintro ⟨⟨n, i⟩, hm, hq⟩
      dsimp only at hq
      split at hq
      · next hn =>
        cases hq
        exact ⟨(hget i).mpr ⟨n, mem_zipIdx_iff_getElem?.mp hm, hn⟩, i, rfl⟩
      · cases hq
    · rintro ⟨hq, i, rfl⟩
      obtain ⟨n, hn, hne⟩ := (hget i).mp hq
      exact ⟨(n, i), mem_zipIdx_iff_getElem?.mpr hn, if_pos hne⟩
  · rw [children, if_neg he]
    exact ⟨fun h => absurd h not_mem_nil, fun h => absurd h.1 he⟩

theorem parent?_eq_some_iff :
    d.parent? q = some p ↔ d.isElement p ∧ ∃ i, q = .child i :: p := by
  constructor
  · intro h
    cases q with
    | nil => cases h
    | cons step outer =>
      cases step with
      | content i => cases h
      | child i =>
        obtain ⟨he, ho⟩ := Option.ite_none_right_eq_some.mp h
        cases ho
        exact ⟨he, i, rfl⟩
  · rintro ⟨he, i, rfl⟩
    rw [parent?, if_pos he]

theorem blank_adapter (he : d.isElement place = false)
    (hl : locations.bind (·.lookup place) = none) : Blank (d.adapter locations) place := by
  have hparts : ∀ n, d.get? place = some n → n.tag? = none ∧ n.attrs = [] ∧ n.children = [] := by
    intro n hn
    rw [isElement, hn, Option.any_some] at he
    cases n with
    | element tag attrs children template => cases he
    | _ => exact ⟨rfl, rfl, rfl⟩
  apply blank_of
  case isElement => exact he
  case tagName =>
    change (((d.get? place).bind Node.tag?).map Ascii.lower).getD "" = ""
    rw [Option.bind_eq_none_iff.mpr fun n hn => (hparts n hn).1, Option.map_none, Option.getD_none]
  case textContent =>
    change "".intercalate ((((d.get? place).map Node.children).getD []).filterMap
      Node.visibleText?) = ""
    cases hn : d.get? place with
    | none => rfl
    | some n =>
      rw [Option.map_some, (hparts n hn).2.2]
      rfl
  case attr =>
    intro name
    change (d.get? place).bind (fun n => (n.attrs.find? (Ascii.same ·.1 name)).map (·.2)) = none
    rw [Option.bind_eq_none_iff]
    intro n hn
    rw [(hparts n hn).2.1]
    rfl
  case attrNames =>
    change ((d.get? place).map (·.attrs.map (·.1))).getD [] = []
    cases hn : d.get? place with
    | none => rfl
    | some n => rw [Option.map_some, (hparts n hn).2.1, map_nil, Option.getD_some]
  case children =>
    change d.children place = []
    rw [Document.children, he, if_neg Bool.false_ne_true]
  case location => exact hl

theorem shows_adapter (he : d.isElement place = false)
    (hl : locations.bind (·.lookup place) = none) :
    ShowsNonElement (d.adapter locations) place fun p => ∃ i, place = .child i :: p := by
  apply (blank_adapter he hl).shows
  · exact fun p c hc => (mem_children.mp hc).2.1
  · exact fun p => parent?_eq_some_iff

end Document

theorem Page.adapter_parse (source : String) : (Page.parse source).adapter =
    (Document.parse source).adapter (some (Located.table (Document.parse source) source)) := by
  have h (p : Page) : p.adapter = p.document.adapter (some p.locations) := rfl
  rw [h, parse]

theorem Page.lookup_of_not_isElement {source : String}
    (he : (Document.parse source).isElement place = false) :
    (Located.table (Document.parse source) source).lookup place = none := by
  cases hl : (Located.table (Document.parse source) source).lookup place with
  | none => rfl
  | some l =>
    obtain ⟨tag, hm, -⟩ := Located.mem_pair_of_lookup hl
    have htag := Document.get?_of_mem_elements (Located.mem_of_mem_pair hm).1
    obtain ⟨n, hn, ht⟩ := Option.bind_eq_some_iff.mp htag
    rw [Document.isElement, hn, Option.any_some] at he
    cases n with
    | element tag attrs children template => cases he
    | _ => cases ht

end Markup

/-- Nodes that are no elements show nothing of themselves, in every tree that edits lead to and in
every parsed document. They look like missing ones unless they hang right under an element. -/
theorem showsNonElement (edits : List Live.Edit)
    (hs : (Live.Tree.empty.run edits).size < 2 ^ 32 - 1) (source : String) :
    (∀ x, (Live.Tree.empty.run edits).isElement x = false →
      ShowsNonElement (Live.Tree.empty.run edits).adapter x
        fun p => x ∈ (Live.Tree.empty.run edits).children p) ∧
      ∀ place, (Markup.Document.parse source).isElement place = false →
        ∀ a ∈ [(Markup.Document.parse source).adapter none, (Markup.Page.parse source).adapter],
          ShowsNonElement a place fun p => ∃ i, place = .child i :: p := by
  constructor
  · intro x he
    exact (Live.Tree.forest_of_changes (Live.Tree.empty.changes_run edits)
      Live.Tree.forest_empty.children hs.le).shows_adapter he
  · intro place he
    rw [forall_mem_cons, forall_mem_singleton, Markup.Page.adapter_parse]
    refine ⟨Markup.Document.shows_adapter he rfl, Markup.Document.shows_adapter he ?_⟩
    rw [Option.bind_some, Markup.Page.lookup_of_not_isElement he]

def heldTextEdits : List Live.Edit :=
  [.createElement "html" [], .createElement "head" [], .createElement "body" [],
    .appendChild .root ⟨1⟩, .appendChild ⟨1⟩ ⟨2⟩, .appendChild ⟨1⟩ ⟨3⟩, .createText "x",
    .createElement "meta" [], .appendChild ⟨2⟩ ⟨4⟩, .appendChild ⟨2⟩ ⟨5⟩]

theorem showsNonElement_heldText :
    (Live.Tree.empty.run heldTextEdits).size < 2 ^ 32 - 1 ∧
      Blank (Live.Tree.empty.run heldTextEdits).adapter ⟨4⟩ ∧
      (Live.Tree.empty.run heldTextEdits).adapter.siblings ⟨4⟩ = [⟨5⟩] ∧
      Missing (Markup.Page.parse "<!--a--><p>").adapter [.child 0] := by
  have hs : (Live.Tree.empty.run heldTextEdits).size < 2 ^ 32 - 1 := by decide +kernel
  obtain ⟨hlive, hparsed⟩ := showsNonElement heldTextEdits hs "<!--a--><p>"
  have htext := hlive ⟨4⟩ (by decide +kernel)
  have hcomment := hparsed [.child 0] (by decide +kernel) _ (mem_cons_of_mem _ mem_cons_self)
  have hchildren : (Live.Tree.empty.run heldTextEdits).adapter.children ⟨2⟩ = [⟨5⟩] := by
    decide +kernel
  refine ⟨hs, htext.blank, ?_, hcomment.missing_iff.mpr ?_⟩
  · exact (htext.around ⟨2⟩ (by decide +kernel) (by decide +kernel)).2.trans hchildren
  · rintro p hp ⟨i, h⟩
    cases h
    exact absurd hp (by decide +kernel)

/-- The text has the head for a parent, and the element behind it for a sibling. -/
theorem not_missing_heldText :
    (Live.Tree.empty.run heldTextEdits).size < 2 ^ 32 - 1 ∧
      (Live.Tree.empty.run heldTextEdits).isElement ⟨4⟩ = false ∧
      ¬ Missing (Live.Tree.empty.run heldTextEdits).adapter ⟨4⟩ := by
  refine ⟨by decide +kernel, by decide +kernel, fun h => ?_⟩
  have hp : (Live.Tree.empty.run heldTextEdits).adapter.parent ⟨4⟩ = some ⟨2⟩ := by decide +kernel
  exact absurd (h.parent.symm.trans hp) nofun

end HeadAudit

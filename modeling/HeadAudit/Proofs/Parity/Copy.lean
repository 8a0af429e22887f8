import HeadAudit.Proofs.Live.Attributes
import HeadAudit.Proofs.Live.Mirror
import HeadAudit.Proofs.Parity.Report

namespace HeadAudit

open List Live

namespace Markup

mutual

/-- Every element has tidy attribute names, apart from the content of templates. -/
def Node.Tidy : Node → Prop
  | .element _ attrs children _ => TidyNames attrs ∧ TidyAll children
  | _ => True

def TidyAll : List Node → Prop
  | [] => True
  | n :: ns => n.Tidy ∧ TidyAll ns

end

variable {d : Document} {place : Place} {n : Node} {ns : List Node} {tag : String}

theorem TidyAll.mem (h : TidyAll ns) (hn : n ∈ ns) : n.Tidy := by
  induction ns with
  | nil => cases hn
  | cons m ns ih =>
    rw [TidyAll] at h
    rcases mem_cons.mp hn with rfl | hn
    · exact h.1
    · exact ih h.2 hn

theorem Node.Tidy.names (h : n.Tidy) : TidyNames n.attrs := by
  cases n with
  | element tag attrs children template =>
    rw [Node.Tidy] at h
    exact h.1
  | _ => exact ⟨nodup_nil, fun _ hm => absurd hm not_mem_nil⟩

theorem Node.Tidy.children (h : n.Tidy) : TidyAll n.children := by
  cases n with
  | element tag attrs children template =>
    rw [Node.Tidy] at h
    exact h.2
  | _ => exact (by rw [TidyAll]; trivial : TidyAll [])

namespace Document

theorem get?_child (d : Document) (place : Place) (i : Nat) :
    d.get? (.child i :: place) = (d.below place)[i]? := by
  cases place with
  | nil => rfl
  | cons step outer =>
    change ((d.get? (step :: outer)).bind fun n => n.children[i]?) =
      (((d.get? (step :: outer)).map Node.children).getD [])[i]?
    cases d.get? (step :: outer) <;> simp

theorem below_of_get? (h : d.get? place = some n) : d.below place = n.children := by
  cases place with
  | nil => cases h
  | cons step outer =>
    change ((d.get? (step :: outer)).map Node.children).getD [] = n.children
    rw [h]
    rfl

theorem children_of_isElement (h : d.isElement place) : d.children place =
    ((d.below place).zipIdx.filter (·.1.isElement)).map fun q => .child q.2 :: place := by
  rw [children, if_pos h, ← filterMap_eq_map', filterMap_filter]

theorem parent?_of_mem {q : Place} (h : q ∈ d.children place) : d.parent? q = some place := by
  rw [children] at h
  split at h
  · next he =>
    obtain ⟨⟨m, i⟩, -, hq⟩ := mem_filterMap.mp h
    dsimp only at hq
    split at hq
    · cases hq
      rw [parent?, if_pos he]
    · cases hq
  · cases h

/-- The first element among some nodes is what a search for its tag finds. -/
theorem first_eq (hf : (ns.filter (·.isElement)).head? = some n) (ht : n.tag? = some tag) :
    ∃ i, ns[i]? = some n ∧ ns.findIdx? (·.tag? == some tag) = some i ∧
      ∀ k, ((ns.zipIdx k).filter (·.1.isElement)).head? = some (n, k + i) := by
  induction ns with
  | nil => cases hf
  | cons m ns ih =>
    rw [findIdx?_cons]
    cases he : m.isElement with
    | true =>
      rw [filter_cons_of_pos he, head?_cons, Option.some.injEq] at hf
      subst hf
      refine ⟨0, rfl, by rw [ht, beq_self_eq_true, if_pos rfl], fun k => ?_⟩
      simp only [zipIdx_cons, filter_cons, he, if_true, head?_cons, Nat.add_zero]
    | false =>
      have hm : (m.tag? == some tag) = false := by
        cases m with
        | element => cases he
        | _ => rfl
      rw [filter_cons_of_neg (by rw [he]; exact Bool.false_ne_true)] at hf
      obtain ⟨i, hi, hfind, hzip⟩ := ih hf
      refine ⟨i + 1, hi, by rw [hm, hfind]; rfl, fun k => ?_⟩
      simp only [zipIdx_cons, filter_cons, he, Bool.false_eq_true, if_false, hzip]
      rw [Nat.add_assoc, Nat.add_comm 1 i]

end Document

end Markup

open Markup (Place)

/-- A place in a parsed document with the node there, and its copy in a live tree. -/
structure Mirrored (d : Markup.Document) (t : Tree) (lo : Nat) (place : Place) (n : Markup.Node)
    (id : NodeId) : Prop where
  get? : d.get? place = some n
  isElement : n.isElement
  copied : t.Copied lo n id

namespace Mirrored

variable {d : Markup.Document} {t : Tree} {lo : Nat} {place : Place} {n : Markup.Node}
  {id : NodeId}

theorem isElement_place (h : Mirrored d t lo place n id) : d.isElement place := by
  rw [Markup.Document.isElement, h.get?, Option.any_some, h.isElement]

theorem isElement_id (h : Mirrored d t lo place n id) : t.isElement id := by
  rw [h.copied.isElement, h.isElement]

theorem copiedAll (h : Mirrored d t lo place n id) :
    t.CopiedAll lo (d.below place) (t.children id) := by
  rw [Markup.Document.below_of_get? h.get?]
  have hc := h.copied
  have he := h.isElement
  cases n with
  | element tag attrs children template =>
    rw [Tree.Copied] at hc
    exact hc.2.2
  | _ => cases he

/-- The content of a copy of an element whose attribute names are tidy. -/
theorem content (h : Mirrored d t lo place n id) (hn : TidyNames n.attrs) :
    ∃ node tag, t.get? id = some node ∧ n.tag? = some tag ∧
      node.content = .element (Ascii.lower tag) n.attrs := by
  obtain ⟨node, hnode, hc⟩ := h.copied.exists_node
  have he := h.isElement
  cases n with
  | element tag attrs children template =>
    have hattrs : Attributes.setAll [] attrs = attrs := Attributes.setAll_of_tidy hn
    have hcontent := Option.some.inj hc
    rw [hattrs] at hcontent
    exact ⟨node, tag, hnode, rfl, hcontent.symm⟩
  | _ => cases he

variable {locations : Option Markup.LocationTable}

theorem tagName (h : Mirrored d t lo place n id) (hn : TidyNames n.attrs) :
    (d.adapter locations).tagName place = t.adapter.tagName id := by
  obtain ⟨node, tag, hnode, ht, hc⟩ := h.content hn
  change (((d.get? place).bind (·.tag?)).map Ascii.lower).getD "" =
    ((t.get? id).bind Node.tag?).getD ""
  rw [h.get?, Option.bind_some, ht, hnode, Option.bind_some, Node.tag?, hc]
  rfl

theorem attr (h : Mirrored d t lo place n id) (hn : TidyNames n.attrs) (name : String) :
    (d.adapter locations).attr place name = t.adapter.attr id name := by
  obtain ⟨node, tag, hnode, -, hc⟩ := h.content hn
  change ((d.get? place).bind fun n => (n.attrs.find? (Ascii.same ·.1 name)).map (·.2)) =
    (t.get? id).bind fun node => node.attrs.get? name
  rw [h.get?, Option.bind_some, hnode, Option.bind_some, Node.attrs, hc]
  rfl

theorem attrNames (h : Mirrored d t lo place n id) (hn : TidyNames n.attrs) :
    (d.adapter locations).attrNames place = t.adapter.attrNames id := by
  obtain ⟨node, tag, hnode, -, hc⟩ := h.content hn
  change ((d.get? place).map (·.attrs.map (·.1))).getD [] =
    ((t.get? id).map (·.attrs.map (·.1))).getD []
  rw [h.get?, Option.map_some, hnode, Option.map_some, Node.attrs, hc]

theorem textContent (h : Mirrored d t lo place n id) :
    (d.adapter locations).textContent place = t.adapter.textContent id := by
  have ht := h.copiedAll.texts
  rw [Markup.Document.below_of_get? h.get?] at ht
  change "".intercalate ((((d.get? place).map (·.children)).getD []).filterMap (·.visibleText?)) =
    if t.isElement id then t.textContent id else ""
  rw [if_pos h.isElement_id, Tree.textContent, ht, h.get?]
  rfl

/-- The elements directly in a mirrored element are mirrored one by one. -/
theorem children (h : Mirrored d t lo place n id) :
    Forall₂ (fun q c => ∃ m ∈ n.children, Mirrored d t lo q m c) (d.children place)
      (t.adapter.children id) := by
  have hids : t.adapter.children id = (t.children id).filter t.isElement := if_pos h.isElement_id
  rw [Markup.Document.children_of_isElement h.isElement_place, hids, forall₂_map_left_iff]
  apply (forall₂_and_mem (h.copiedAll.elements 0)).imp
  intro q c hqc
  obtain ⟨hcopied, hq, -⟩ := hqc
  obtain ⟨hmem, he⟩ := mem_filter.mp hq
  have hget := mem_zipIdx_iff_getElem?.mp hmem
  refine ⟨q.1, ?_, ?_, he, hcopied⟩
  · rw [← Markup.Document.below_of_get? h.get?]
    exact mem_of_getElem? hget
  · rw [Markup.Document.get?_child, hget]

end Mirrored

end HeadAudit

import Mathlib
import HeadAudit.Markup.View

namespace HeadAudit.Markup

open List

abbrev Kind := String × List (String × String)

/-- A node as it shows from outside: an element without elements in it, by its name and attributes,
or else nothing. -/
inductive Node.IsLeaf : Node → Option Kind → Prop where
  | flat {n : Node} (h : n.isElement = false) : n.IsLeaf none
  | element {tag : String} {attrs : List (String × String)} {children : List Node}
      (h : ∀ n ∈ children, n.isElement = false) :
      (Node.element tag attrs children []).IsLeaf (some (tag, attrs))

namespace Document

variable {step : Nat → Step} {outer : Place} {ns : List Node}

theorem elementsUnder_append (step : Nat → Step) (outer : Place) (ns ms : List Node) (i : Nat) :
    elementsUnder step outer i (ns ++ ms) =
      elementsUnder step outer i ns ++ elementsUnder step outer (i + ns.length) ms := by
  induction ns generalizing i with
  | nil => rfl
  | cons n ns ih =>
    rw [cons_append, elementsUnder, elementsUnder, ih, append_assoc, length_cons,
      Nat.add_right_comm, Nat.add_assoc]

theorem elementsOf_flat {n : Node} (h : n.isElement = false) (place : Place) :
    elementsOf place n = [] := by
  cases n with
  | element tag attrs children template => cases h
  | _ => rfl

theorem elementsUnder_flat (h : ∀ n ∈ ns, n.isElement = false) (i : Nat) :
    elementsUnder step outer i ns = [] := by
  induction ns generalizing i with
  | nil => rfl
  | cons n ns ih =>
    rw [elementsUnder, elementsOf_flat (h n mem_cons_self),
      ih fun m hm => h m (mem_cons_of_mem n hm)]
    rfl

def Shows (outer : Place) (i : Nat) (ns : List Node) (e : Place × String)
    (kind : Kind) : Prop :=
  ∃ j n, e = (.child (i + j) :: outer, kind.1) ∧ ns[j]? = some n ∧ n.tag? = some kind.1 ∧
    n.attrs = kind.2

theorem Shows.cons {i : Nat} {e : Place × String} {kind : Kind}
    (h : Shows outer (i + 1) ns e kind) (n : Node) : Shows outer i (n :: ns) e kind := by
  obtain ⟨j, m, rfl, hm, ht, ha⟩ := h
  exact ⟨j + 1, m, by rw [Nat.add_assoc, Nat.add_comm 1 j], hm, ht, ha⟩

theorem forall₂_shows {kinds : List (Option Kind)}
    (h : Forall₂ Node.IsLeaf ns kinds) (outer : Place) (i : Nat) :
    Forall₂ (Shows outer i ns) (elementsUnder .child outer i ns) kinds.reduceOption := by
  induction h generalizing i with
  | nil => exact .nil
  | @cons n kind ns kinds hn _ ih =>
    have hs := (ih (i + 1)).imp fun e kind hk => hk.cons n
    cases hn with
    | flat hn =>
      rw [elementsUnder, elementsOf_flat hn]
      exact hs
    | element hn =>
      rw [elementsUnder, elementsOf, elementsUnder_flat hn]
      exact .cons ⟨0, _, rfl, rfl, rfl, rfl⟩ hs

theorem filterMap_zipIdx {kinds : List (Option Kind)}
    (h : Forall₂ Node.IsLeaf ns kinds) (i : Nat) :
    ((ns.zipIdx i).filterMap fun (n, i) =>
        if n.isElement then some (Step.child i :: outer) else none) =
      (elementsUnder .child outer i ns).map (·.1) := by
  induction h generalizing i with
  | nil => rfl
  | @cons n kind ns kinds hn _ ih =>
    rw [zipIdx_cons, elementsUnder]
    cases hn with
    | flat hn =>
      rw [filterMap_cons_none (by simp [hn]), elementsOf_flat hn, ih]
      rfl
    | element hn =>
      rw [elementsOf, elementsUnder_flat hn]
      exact congrArg (_ :: ·) (ih (i + 1))

end Document

/-- A document that has a head, with what stands in front of the root element, in front of the head,
in it and behind it. -/
structure Outline where
  front : List Node
  rootAttrs : List (String × String)
  inner : List Node
  headAttrs : List (String × String)
  items : List Node
  latter : List Node
  front_flat : ∀ n ∈ front, n.isElement = false
  inner_flat : ∀ n ∈ inner, n.isElement = false

namespace Outline

def document (o : Outline) : Document :=
  ⟨o.front ++ [.element "html" o.rootAttrs
    (o.inner ++ .element "head" o.headAttrs o.items [] :: o.latter) []]⟩

def root (o : Outline) : Place := [.child o.front.length]

def head (o : Outline) : Place := .child o.inner.length :: o.root

def shown (o : Outline) : List (Place × String) := Document.elementsUnder .child o.head 0 o.items

theorem findIdx?_flat {ns ms : List Node} (h : ∀ n ∈ ns, n.isElement = false) {tag : String}
    {attrs : List (String × String)} {children template : List Node} :
    (ns ++ .element tag attrs children template :: ms).findIdx? (·.tag? == some tag) =
      some ns.length := by
  have hns : ns.findIdx? (·.tag? == some tag) = none := by
    rw [findIdx?_eq_none_iff]
    intro n hn
    cases n with
    | element tag attrs children template => exact absurd (h _ hn) (by simp [Node.isElement])
    | _ => rfl
  rw [findIdx?_append, hns, findIdx?_cons]
  simp [Node.tag?]

theorem get?_root (o : Outline) :
    o.document.get? o.root = some (.element "html" o.rootAttrs
      (o.inner ++ .element "head" o.headAttrs o.items [] :: o.latter) []) := by
  rw [root, Document.get?, document, getElem?_append_right le_rfl, Nat.sub_self]
  rfl

theorem get?_head (o : Outline) :
    o.document.get? o.head = some (.element "head" o.headAttrs o.items []) := by
  have hstep : o.document.get? o.head = (o.document.get? o.root).bind
      (·.step? (.child o.inner.length)) := rfl
  rw [hstep, o.get?_root, Option.bind_some, Node.step?, Node.children,
    getElem?_append_right le_rfl, Nat.sub_self]
  rfl

theorem get?_item (o : Outline) (i : Nat) :
    o.document.get? (.child i :: o.head) = o.items[i]? := by
  have hstep : o.document.get? (.child i :: o.head) =
      (o.document.get? o.head).bind (·.step? (.child i)) := rfl
  rw [hstep, o.get?_head]
  rfl

theorem head?_document (o : Outline) : o.document.head? = some o.head := by
  have hhtml : o.document.html? = some o.root := by
    have hbelow : o.document.below [] = o.document.nodes := rfl
    rw [Document.html?, Document.childWithTag?, hbelow, document, findIdx?_flat o.front_flat]
    rfl
  have hbelow : o.document.below o.root =
      o.inner ++ .element "head" o.headAttrs o.items [] :: o.latter := by
    have hempty : o.root.isEmpty = false := rfl
    rw [Document.below, hempty, if_neg Bool.false_ne_true, o.get?_root]
    rfl
  rw [Document.head?, hhtml, Option.bind_some, Document.childWithTag?, hbelow,
    findIdx?_flat o.inner_flat]
  rfl

theorem elements_document (o : Outline) :
    o.document.elements = (o.root, "html") :: (o.head, "head") ::
      (o.shown ++ Document.elementsUnder .child o.root (o.inner.length + 1) o.latter) := by
  rw [Document.elements, document, Document.elementsUnder_append,
    Document.elementsUnder_flat o.front_flat, nil_append, Nat.zero_add]
  simp only [Document.elementsUnder, Document.elementsOf, append_nil, nil_append,
    Document.elementsUnder_append, Document.elementsUnder_flat o.inner_flat, Nat.zero_add,
    cons_append]
  rfl

theorem children_head (o : Outline) {kinds : List (Option Kind)}
    (h : Forall₂ Node.IsLeaf o.items kinds) :
    o.document.children o.head = o.shown.map (·.1) := by
  have hempty : o.head.isEmpty = false := rfl
  have helement : o.document.isElement o.head = true := by
    rw [Document.isElement, o.get?_head]
    rfl
  rw [Document.children, helement, if_pos rfl, Document.below, hempty, if_neg Bool.false_ne_true,
    o.get?_head]
  exact Document.filterMap_zipIdx h 0

end Outline

end HeadAudit.Markup

import HeadAudit.Markup.View
import HeadAudit.Proofs.Live.Copy
import HeadAudit.Live.View

namespace HeadAudit.Live.Tree

open List

variable {t : Tree} {lo : Nat} {id : NodeId} {ids : List NodeId} {n : Markup.Node}
  {ns : List Markup.Node} {tag : String}

theorem get?_of_content? {content : Content} (h : t.content? id = some content) :
    ∃ node, t.get? id = some node ∧ node.content = content := by
  rw [content?, Option.map_eq_some_iff] at h
  exact h

theorem kept_eq_zero (h : kept n = 0) : n.isElement = false ∧ n.visibleText? = none := by
  cases n with
  | doctype name => exact ⟨rfl, rfl⟩
  | text s =>
    refine ⟨rfl, ?_⟩
    rw [kept] at h
    split at h
    · next hb => rw [Markup.Node.visibleText?, if_pos hb]
    · exact absurd h (by decide)
  | comment s => exact absurd h (by rw [kept]; decide)
  | element tag attrs children template => exact absurd h (by rw [kept]; omega)

theorem kept_le_keptAll (h : n ∈ ns) : kept n ≤ keptAll ns := by
  induction ns with
  | nil => cases h
  | cons m ns ih =>
    rw [keptAll]
    rcases mem_cons.mp h with rfl | h
    · omega
    · have hle := ih h
      omega

mutual

theorem kept_le_size (n : Markup.Node) : kept n ≤ n.size := by
  cases n with
  | doctype name => exact Nat.zero_le 1
  | text s =>
    change kept (.text s) ≤ 1
    rw [kept]
    split <;> omega
  | comment s => exact le_refl 1
  | element tag attrs children template =>
    have hle := keptAll_le_sizes children
    rw [kept, Markup.Node.size]
    omega

theorem keptAll_le_sizes (ns : List Markup.Node) : keptAll ns ≤ Markup.Node.sizes ns := by
  cases ns with
  | nil => exact Nat.zero_le _
  | cons n ns =>
    have hn := kept_le_size n
    have hns := keptAll_le_sizes ns
    rw [keptAll, Markup.Node.sizes]
    omega

end

def copyContent? : Markup.Node → Option Content
  | .doctype _ => none
  | .text s => some (.text s)
  | .comment s => some (.comment s)
  | .element tag attrs _ _ => some (.element (Ascii.lower tag) (Attributes.setAll [] attrs))

theorem Copied.exists_node (h : t.Copied lo n id) :
    ∃ node, t.get? id = some node ∧ copyContent? n = some node.content := by
  cases n with
  | doctype name =>
    rw [Copied] at h
    exact h.elim
  | _ =>
    rw [Copied] at h
    obtain ⟨node, hn, hc⟩ := get?_of_content? h.2.1
    exact ⟨node, hn, congrArg some hc.symm⟩

theorem Copied.isElement (h : t.Copied lo n id) : t.isElement id = n.isElement := by
  obtain ⟨node, hn, hc⟩ := h.exists_node
  rw [Tree.isElement, hn, Option.any_some, Node.isElement]
  cases n with
  | doctype name => cases hc
  | _ =>
    rw [← Option.some.inj hc]
    rfl

theorem Copied.text? (h : t.Copied lo n id) (hk : kept n ≠ 0) :
    (t.get? id).bind Node.text? = n.visibleText? := by
  obtain ⟨node, hn, hc⟩ := h.exists_node
  rw [hn, Option.bind_some, Node.text?]
  cases n with
  | doctype name => cases hc
  | text s =>
    rw [kept] at hk
    have hb : ¬ Text.blank s := fun hb => hk (if_pos hb)
    rw [← Option.some.inj hc, Markup.Node.visibleText?, if_neg hb]
  | _ =>
    rw [← Option.some.inj hc]
    rfl

theorem CopiedAll.texts (h : t.CopiedAll lo ns ids) :
    (ids.filterMap fun c => (t.get? c).bind Node.text?) = ns.filterMap (·.visibleText?) := by
  induction ns generalizing ids with
  | nil =>
    rw [CopiedAll] at h
    rw [h]
    rfl
  | cons n ns ih =>
    rw [CopiedAll] at h
    rw [filterMap_cons]
    split at h
    · next hk => rw [(kept_eq_zero hk).2, ih h]
    · next hk =>
      obtain ⟨id, rest, rfl, hn, hns⟩ := h
      rw [filterMap_cons, hn.text? hk, ih hns]

theorem CopiedAll.elements (h : t.CopiedAll lo ns ids) (k : Nat) :
    Forall₂ (fun q c => t.Copied lo q.1 c) ((ns.zipIdx k).filter (·.1.isElement))
      (ids.filter t.isElement) := by
  induction ns generalizing ids k with
  | nil =>
    rw [CopiedAll] at h
    rw [h]
    exact .nil
  | cons n ns ih =>
    rw [CopiedAll] at h
    rw [zipIdx_cons]
    split at h
    · next hk =>
      simp only [filter_cons, (kept_eq_zero hk).1, Bool.false_eq_true, if_false]
      exact ih h (k + 1)
    · next hk =>
      obtain ⟨id, rest, rfl, hn, hns⟩ := h
      simp only [filter_cons, hn.isElement]
      split
      · exact .cons hn (ih hns (k + 1))
      · exact ih hns (k + 1)

theorem Copied.hasTag (h : t.Copied lo n id) (ht : n.tag? = some tag)
    (hl : Ascii.lower tag = tag) : t.hasTag tag id = true := by
  obtain ⟨node, hn, hc⟩ := h.exists_node
  cases n with
  | element tag' attrs children template =>
    obtain rfl : tag' = tag := Option.some.inj ht
    rw [Tree.hasTag, hn, Option.bind_some, Node.tag?, ← Option.some.inj hc, hl, beq_self_eq_true]
  | _ => cases ht

theorem Copied.leaf (h : t.Copied lo n id) (he : n.isElement = false) (tag : String) :
    t.children id = [] ∧ t.hasTag tag id = false := by
  obtain ⟨node, hn, hc⟩ := h.exists_node
  rw [Tree.hasTag, hn, Option.bind_some, Node.tag?]
  cases n with
  | doctype name => cases hc
  | element tag attrs children template => cases he
  | _ =>
    rw [Copied] at h
    rw [← Option.some.inj hc]
    exact ⟨h.2.2, rfl⟩

theorem CopiedAll.findSome? (h : t.CopiedAll lo ns ids)
    (hf : (ns.filter (·.isElement)).head? = some n) (ht : n.tag? = some tag)
    (hl : Ascii.lower tag = tag) (fuel : Nat) :
    (ids.findSome? fun c => if t.hasTag tag c then some c else t.findWithin tag fuel c) =
      (ids.filter t.isElement).head? := by
  induction ns generalizing ids with
  | nil => simp at hf
  | cons m ns ih =>
    rw [CopiedAll] at h
    split at h
    · next hk =>
      rw [filter_cons_of_neg (by rw [(kept_eq_zero hk).1]; exact Bool.false_ne_true)] at hf
      exact ih h hf
    · next hk =>
      obtain ⟨id, rest, rfl, hm, hns⟩ := h
      rw [findSome?_cons]
      cases he : m.isElement with
      | true =>
        rw [filter_cons_of_pos he, head?_cons, Option.some.injEq] at hf
        subst hf
        rw [if_pos (hm.hasTag ht hl), filter_cons_of_pos (hm.isElement.trans he), head?_cons]
      | false =>
        have hnone : t.findWithin tag fuel id = none := by
          cases fuel with
          | zero => rfl
          | succ fuel => rw [findWithin, (hm.leaf he tag).1, findSome?_nil]
        have hne : ¬ t.isElement id = true := by
          rw [hm.isElement, he]
          exact Bool.false_ne_true
        rw [filter_cons_of_neg (by rw [he]; exact Bool.false_ne_true)] at hf
        rw [(hm.leaf he tag).2, if_neg Bool.false_ne_true, hnone, filter_cons_of_neg hne]
        exact ih hns hf

end HeadAudit.Live.Tree

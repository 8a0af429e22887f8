import HeadAudit.Proofs.Adapter.Trees
import HeadAudit.Proofs.Parity.Copy

namespace HeadAudit

open List Relation

namespace Markup.Document

variable {d : Document} {locations : Option LocationTable} {place q : Place}

theorem length_of_mem (h : q ∈ d.children place) : q.length = place.length + 1 := by
  have hp := parent?_of_mem h
  cases q with
  | nil => cases hp
  | cons step outer =>
    cases step with
    | child i =>
      rw [parent?] at hp
      split at hp
      · rw [← Option.some.inj hp, length_cons]
      · cases hp
    | content i => cases hp

theorem length_le_of_below (h : Below (d.adapter locations) place q) :
    place.length ≤ q.length := by
  induction h with
  | head => exact le_refl _
  | child _ hc ih =>
    rw [length_of_mem hc]
    omega

theorem nodup_children (d : Document) (place : Place) : (d.children place).Nodup := by
  by_cases h : d.isElement place
  · rw [children_of_isElement h,
      show (fun q : Node × Nat => Step.child q.2 :: place) =
        (fun i => Step.child i :: place) ∘ Prod.snd from rfl, ← List.map_map]
    apply Nodup.map (fun i j hij => by simpa using hij)
    have hn : (((d.below place).zipIdx).map Prod.snd).Nodup := by
      rw [zipIdx_map_snd]
      exact nodup_range'
    exact hn.sublist (filter_sublist.map Prod.snd)
  · rw [children, if_neg h]
    exact nodup_nil

theorem rooted (d : Document) (locations : Option LocationTable) (place : Place) :
    Rooted (d.adapter locations) place where
  parent := fun _ hc => parent?_of_mem hc
  nodup := fun _ => nodup_children d _
  not_mem := fun h hm => by
    have hl := length_le_of_below h
    rw [length_of_mem hm] at hl
    omega

theorem size_le_sizes {n : Node} {ns : List Node} (h : n ∈ ns) : n.size ≤ Node.sizes ns := by
  induction ns with
  | nil => cases h
  | cons m ns ih =>
    rw [Node.sizes]
    rcases mem_cons.mp h with rfl | h
    · omega
    · have hle := ih h
      omega

theorem size_lt_of_step {n m : Node} {step : Step} (h : n.step? step = some m) :
    m.size < n.size := by
  cases n with
  | element tag attrs children template =>
    rw [Node.size]
    cases step with
    | child i =>
      have hle := size_le_sizes (mem_of_getElem? h)
      exact Nat.lt_succ_of_le (hle.trans (Nat.le_add_right _ _))
    | content i =>
      have hle := size_le_sizes (mem_of_getElem? h)
      exact Nat.lt_succ_of_le (hle.trans (Nat.le_add_left _ _))
  | _ => cases step <;> cases h

def span (d : Document) (place : Place) : Nat := ((d.get? place).map Node.size).getD 0

theorem span_eq {n : Node} (h : d.get? place = some n) : d.span place = n.size := by
  rw [span, h]
  rfl

theorem span_le (d : Document) (place : Place) : d.span place ≤ Node.sizes d.nodes := by
  induction place with
  | nil => exact Nat.zero_le _
  | cons step outer ih =>
    cases hn : d.get? (step :: outer) with
    | none =>
      rw [span, hn]
      exact Nat.zero_le _
    | some n =>
      rw [span_eq hn]
      cases outer with
      | nil =>
        cases step with
        | child i => exact size_le_sizes (mem_of_getElem? hn)
        | content i => cases hn
      | cons upper outer =>
        have hbind : (d.get? (upper :: outer)).bind (·.step? step) = some n := by
          cases step <;> exact hn
        obtain ⟨m, hm, hstep⟩ := Option.bind_eq_some_iff.mp hbind
        rw [span_eq hm] at ih
        exact (size_lt_of_step hstep).le.trans ih

theorem span_lt_of_mem (h : q ∈ d.children place) : d.span q < d.span place := by
  have hplace : d.isElement place := by
    by_contra hnot
    rw [children, if_neg hnot] at h
    cases h
  rw [children_of_isElement hplace, mem_map] at h
  obtain ⟨⟨m, i⟩, hm, rfl⟩ := h
  obtain ⟨n, hn, -⟩ := (Option.any_eq_true _ _).mp hplace
  have hget : d.get? (.child i :: place) = some m := by
    rw [get?_child]
    exact mem_zipIdx_iff_getElem?.mp (mem_filter.mp hm).1
  have hstep : n.step? (.child i) = some m := by
    rwa [get?_child, below_of_get? hn] at hget
  rw [span_eq hget, span_eq hn]
  exact size_lt_of_step hstep

/-- A document has more nodes than any chain of children. -/
theorem isFinite (d : Document) (locations : Option LocationTable) (place : Place) :
    (d.adapter locations).IsFinite place :=
  ⟨d.span, d.span_le place, fun _ hc => span_lt_of_mem hc⟩

end Markup.Document

namespace Live.Tree

variable {t : Tree} {id p c : NodeId}

theorem mem_adapter_children : c ∈ t.adapter.children p ↔
    t.isElement p ∧ c ∈ t.children p ∧ t.isElement c := by
  change c ∈ (if t.isElement p then (t.children p).filter t.isElement else []) ↔ _
  split
  · next hp => rw [mem_filter, and_iff_right hp]
  · next hp => exact ⟨fun h => absurd h not_mem_nil, fun h => absurd h.1 hp⟩

theorem Forest.under_of_below (h : t.Forest t.children) (hb : Below t.adapter id c) :
    ReflTransGen t.Under c id := by
  induction hb with
  | head => exact .refl
  | child _ hc ih => exact .head (h.linked.mem_iff.mp (mem_adapter_children.mp hc).2.1) ih

theorem Forest.rooted (h : t.Forest t.children) (id : NodeId) : Rooted t.adapter id where
  parent := fun {x c} _ hc => by
    obtain ⟨hx, hm, -⟩ := mem_adapter_children.mp hc
    change (t.parent? c).filter t.isElement = some x
    rw [h.linked.mem_iff.mp hm, Option.filter_some, if_pos hx]
  nodup := fun {x} _ => by
    change (if t.isElement x then (t.children x).filter t.isElement else []).Nodup
    split
    · exact (h.linked.nodup x).filter _
    · exact nodup_nil
  not_mem := fun {x} hb hm => by
    have hu : t.Under id x := h.linked.mem_iff.mp (mem_adapter_children.mp hm).2.1
    exact h.grounded.irrefl id (TransGen.head' hu (h.under_of_below hb))

end Live.Tree

open Markup (Place)
open Live (Tree NodeId)

namespace Mirrored

variable {d : Markup.Document} {t : Tree} {lo : Nat} {place q : Place} {n : Markup.Node}
  {id c : NodeId} {locations : Option Markup.LocationTable}

/-- What is paired below a mirrored head is mirrored itself. -/
theorem of_paired (h : Mirrored d t lo place n id) (hn : n.Tidy)
    (hp : Paired (d.adapter locations) t.adapter place id q c) :
    ∃ m, Mirrored d t lo q m c ∧ m.Tidy := by
  induction hp with
  | head => exact ⟨n, h, hn⟩
  | child _ hq hc ih =>
    obtain ⟨m, hm, htidy⟩ := ih
    obtain ⟨m', hmem, hm'⟩ := rel_getElem? hm.children hq hc
    exact ⟨m', hm', htidy.children.mem hmem⟩

def rank (d : Markup.Document) (place : Place) : Nat := ((d.get? place).map Tree.kept).getD 0

theorem rank_eq (h : Mirrored d t lo place n id) : rank d place = Tree.kept n := by
  rw [rank, h.get?]
  rfl

theorem kept_lt {m : Markup.Node} (h : m ∈ n.children) : Tree.kept m < Tree.kept n := by
  cases n with
  | element tag attrs children template =>
    have hle := Tree.kept_le_keptAll h
    rw [Tree.kept]
    exact Nat.lt_succ_of_le hle
  | _ => cases h

theorem similar (h : Mirrored d t lo place n id) (hn : n.Tidy) (hf : t.Forest t.children)
    (locations : Option Markup.LocationTable) :
    Similar (d.adapter locations) t.adapter (Paired (d.adapter locations) t.adapter place id)
      (rank d) where
  isElement := fun hp => by
    obtain ⟨m, hm, -⟩ := h.of_paired hn hp
    exact hm.isElement_place.trans hm.isElement_id.symm
  tagName := fun hp => by
    obtain ⟨m, hm, htidy⟩ := h.of_paired hn hp
    exact hm.tagName htidy.names
  attr := fun hp => by
    obtain ⟨m, hm, htidy⟩ := h.of_paired hn hp
    exact hm.attr htidy.names
  attrNames := fun hp => by
    obtain ⟨m, hm, htidy⟩ := h.of_paired hn hp
    exact hm.attrNames htidy.names
  textContent := fun hp => by
    obtain ⟨m, hm, -⟩ := h.of_paired hn hp
    exact hm.textContent
  children := fun hp => by
    obtain ⟨m, hm, -⟩ := h.of_paired hn hp
    exact forall₂_of_getElem? hm.children.length_eq fun hq hc => .child hp hq hc
  unique := Paired.biUnique (d.rooted locations place) (hf.rooted id)
  rank_lt := fun hp hq => by
    obtain ⟨m, hm, -⟩ := h.of_paired hn hp
    obtain ⟨c, -, m', hmem, hm'⟩ := exists_rel_of_mem hm.children hq
    rw [hm.rank_eq, hm'.rank_eq]
    exact kept_lt hmem

end Mirrored

end HeadAudit

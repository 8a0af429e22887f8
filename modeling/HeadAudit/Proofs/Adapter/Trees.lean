import HeadAudit.Proofs.Adapter.Forest
import HeadAudit.Proofs.Parity.Pairing

namespace HeadAudit

open List Relation

variable {ν : Type}

/-- The nodes that are met from a node on along a relation given by lists, each after those below
it. Levels beyond `fuel` are left out. -/
def postorder (below : ν → List ν) : Nat → ν → List ν
  | 0, _ => []
  | fuel + 1, node => (below node).flatMap (postorder below fuel) ++ [node]

def preorder (below : ν → List ν) : Nat → ν → List ν
  | 0, _ => []
  | fuel + 1, node => node :: (below node).flatMap (preorder below fuel)

abbrev Reaches (below : ν → List ν) : ν → ν → Prop := ReflTransGen fun p c => c ∈ below p

section Postorder

variable {below fewer : ν → List ν} {rank : ν → Nat} {node x : ν} {fuel fuel' : Nat}

theorem mem_postorder (hr : ∀ p, Reaches below node p → ∀ c ∈ below p, rank c < rank p)
    (hf : rank node < fuel) : x ∈ postorder below fuel node ↔ Reaches below node x := by
  induction fuel generalizing node with
  | zero => exact absurd hf (Nat.not_lt_zero _)
  | succ fuel ih =>
    have hchild : ∀ c ∈ below node, (x ∈ postorder below fuel c ↔ Reaches below c x) := by
      intro c hc
      have hlt := hr node .refl c hc
      exact ih (fun p hp => hr p (.head hc hp)) (by omega)
    rw [postorder, mem_append, mem_flatMap, mem_singleton]
    constructor
    · rintro (⟨c, hc, hx⟩ | rfl)
      · exact .head hc ((hchild c hc).mp hx)
      · exact .refl
    · intro hx
      obtain rfl | ⟨c, hc, hx⟩ := hx.cases_head
      · exact .inr rfl
      · exact .inl ⟨c, hc, (hchild c hc).mpr hx⟩

theorem postorder_sublist (h : ∀ p, fewer p <+ below p) (fuel : Nat) (node : ν) :
    postorder fewer fuel node <+ postorder below fuel node := by
  induction fuel generalizing node with
  | zero => exact .refl _
  | succ fuel ih =>
    rw [postorder, postorder]
    refine Sublist.append ?_ (.refl _)
    exact ((h node).flatMap _).trans (Sublist.flatMap_right _ fun c _ => ih c)

theorem preorder_perm_postorder (below : ν → List ν) (fuel : Nat) (node : ν) :
    preorder below fuel node ~ postorder below fuel node := by
  induction fuel generalizing node with
  | zero => exact .refl _
  | succ fuel ih =>
    rw [preorder, postorder]
    have hbelow := Perm.flatMap_left (below node) fun c _ => ih c
    exact (hbelow.cons node).trans (perm_append_singleton node _).symm

theorem mem_preorder (hr : ∀ p, Reaches below node p → ∀ c ∈ below p, rank c < rank p)
    (hf : rank node < fuel) : x ∈ preorder below fuel node ↔ Reaches below node x :=
  (preorder_perm_postorder below fuel node).mem_iff.trans (mem_postorder hr hf)

theorem preorder_eq (hr : ∀ p, Reaches below node p → ∀ c ∈ below p, rank c < rank p)
    (hf : rank node < fuel) (hf' : rank node < fuel') :
    preorder below fuel node = preorder below fuel' node := by
  induction fuel generalizing node fuel' with
  | zero => exact absurd hf (Nat.not_lt_zero _)
  | succ fuel ih =>
    obtain ⟨fuel', rfl⟩ : ∃ k, fuel' = k + 1 := ⟨fuel' - 1, by omega⟩
    rw [preorder, preorder]
    congr 1
    apply flatMap_congr
    intro c hc
    have hlt := hr node .refl c hc
    exact ih (fun p hp => hr p (.head hc hp)) (by omega) (by omega)

end Postorder

variable {a : Adapter ν} {root node p q c d x : ν} {rank : ν → Nat} {fuel : Nat}

theorem below_iff_reaches : Below a node x ↔ Reaches a.children node x := by
  constructor
  · intro h
    induction h with
    | head => exact .refl
    | child _ hc ih => exact ih.tail hc
  · intro h
    induction h with
    | refl => exact .head
    | tail _ hc ih => exact ih.child hc

theorem Below.trans (h : Below a root node) (hx : Below a node x) : Below a root x := by
  rw [below_iff_reaches] at h hx ⊢
  exact ReflTransGen.trans h hx

namespace Adapter

def IsFinite (a : Adapter ν) (node : ν) : Prop :=
  ∃ rank : ν → Nat, rank node ≤ a.height ∧
    ∀ {p c}, Below a node p → c ∈ a.children p → rank c < rank p

theorem IsFinite.of_below (h : a.IsFinite node) (hx : Below a node x) : a.IsFinite x := by
  obtain ⟨rank, hnode, hr⟩ := h
  refine ⟨rank, ?_, fun hp hc => hr (hx.trans hp) hc⟩
  induction hx with
  | head => exact hnode
  | child hp hc ih => exact (hr hp hc).le.trans ih

theorem IsFinite.of_mem (h : a.IsFinite node) (hc : c ∈ a.children node) : a.IsFinite c :=
  h.of_below (.child .head hc)

/-- The elements below a topmost one form a finite tree: children and parents tell the same, no
child is told twice, and no chain of children is longer than the adapter says. -/
structure IsTree (a : Adapter ν) (root : ν) : Prop where
  isElement : a.isElement root
  top : a.parent root = none
  mem_iff : ∀ {p c}, Below a root p → (c ∈ a.children p ↔ a.isElement c ∧ a.parent c = some p)
  nodup : ∀ {p}, Below a root p → (a.children p).Nodup
  finite : ∃ rank : ν → Nat, rank root ≤ a.height ∧
    ∀ {p c}, Below a root p → c ∈ a.children p → rank c < rank p

namespace IsTree

theorem isElement_of_below (h : a.IsTree root) (hx : Below a root x) : a.isElement x := by
  cases hx with
  | head => exact h.isElement
  | child hp hc => exact ((h.mem_iff hp).mp hc).1

theorem under_of_mem (h : a.IsTree root) (hp : Below a root p) (hc : c ∈ a.children p) :
    a.Under c p := ((h.mem_iff hp).mp hc).2

theorem mem_of_under (h : a.IsTree root) (hc : Below a root c) (hu : a.Under c p) :
    Below a root p ∧ c ∈ a.children p := by
  cases hc with
  | head => exact absurd (h.top.symm.trans hu) nofun
  | child hq hc =>
    obtain rfl : _ = p := Option.some.inj ((h.under_of_mem hq hc).symm.trans hu)
    exact ⟨hq, hc⟩

theorem above_of_below (h : a.IsTree root) (hn : Below a root node) (hx : Below a node x) :
    ReflTransGen a.Under x node := by
  induction hx with
  | head => exact .refl
  | child hp hc ih => exact .head (h.under_of_mem (hn.trans hp) hc) ih

section Rank

variable (hr : ∀ {p c}, Below a root p → c ∈ a.children p → rank c < rank p)

include hr

theorem mem_postorder_iff (hn : Below a root node) (hf : rank node < fuel) :
    x ∈ postorder a.children fuel node ↔ Below a node x := by
  rw [below_iff_reaches]
  refine mem_postorder (fun p hp c hc => ?_) hf
  exact hr (hn.trans (below_iff_reaches.mpr hp)) hc

variable (h : a.IsTree root)

include h

theorem rank_le_of_above (hc : Below a root c) (hp : ReflTransGen a.Under c p) :
    rank c ≤ rank p := by
  induction hp using ReflTransGen.head_induction_on with
  | refl => exact le_refl _
  | head hu _ ih =>
    obtain ⟨hq, hm⟩ := h.mem_of_under hc hu
    exact (hr hq hm).le.trans (ih hq)

theorem ascend_eq (hx : Below a root x) (hf : rank root ≤ rank x + fuel) :
    a.ascend fuel x = root := by
  induction fuel generalizing x with
  | zero =>
    cases hx with
    | head => rfl
    | child hp hc =>
      have hlt := hr hp hc
      have hle := h.rank_le_of_above hr hp (h.above_of_below .head hp)
      omega
  | succ fuel ih =>
    rw [ascend]
    cases hx with
    | head => rw [h.top]
    | child hp hc =>
      have hlt := hr hp hc
      rw [h.under_of_mem hp hc]
      exact ih hp (by omega)

theorem child_unique (hp : Below a root p) (hc : c ∈ a.children p) (hd : d ∈ a.children p)
    (hcx : Below a c x) (hdx : Below a d x) : c = d := by
  have heq : ∀ {c d}, c ∈ a.children p → d ∈ a.children p → ReflTransGen a.Under c d → c = d := by
    intro c d hc hd hcd
    obtain he | ⟨q, hq, hqd⟩ := hcd.cases_head
    · exact he
    · obtain rfl : p = q := Option.some.inj ((h.under_of_mem hp hc).symm.trans hq)
      have hle := h.rank_le_of_above hr hp hqd
      have hlt := hr hp hd
      omega
  obtain hcd | hdc := ReflTransGen.total_of_right_unique a.under_rightUnique
    (h.above_of_below (hp.child hc) hcx) (h.above_of_below (hp.child hd) hdx)
  · exact heq hc hd hcd
  · exact (heq hd hc hdc).symm

theorem nodup_postorder (hn : Below a root node) (hf : rank node < fuel) :
    (postorder a.children fuel node).Nodup := by
  induction fuel generalizing node with
  | zero => exact nodup_nil
  | succ fuel ih =>
    have hfuel : ∀ c ∈ a.children node, rank c < fuel := fun c hc => by
      have hlt := hr hn hc
      omega
    have hbelow : ∀ c ∈ a.children node, ∀ x ∈ postorder a.children fuel c, Below a c x :=
      fun c hc x hx => (mem_postorder_iff hr (hn.child hc) (hfuel c hc)).mp hx
    rw [postorder, nodup_append]
    refine ⟨nodup_flatMap.mpr ⟨fun c hc => ih (hn.child hc) (hfuel c hc), ?_⟩,
      nodup_singleton _, ?_⟩
    · refine (h.nodup hn).imp_of_mem fun {c d} hc hd hne x hxc hxd => hne ?_
      exact h.child_unique hr hn hc hd (hbelow c hc x hxc) (hbelow d hd x hxd)
    · intro x hx y hy he
      obtain ⟨c, hc, hxc⟩ := mem_flatMap.mp hx
      have hcx := hbelow c hc x hxc
      have hle := h.rank_le_of_above hr ((hn.child hc).trans hcx)
        (h.above_of_below (hn.child hc) hcx)
      have hlt := hr hn hc
      rw [he, mem_singleton.mp hy] at hle
      omega

end Rank

end IsTree

end Adapter

end HeadAudit

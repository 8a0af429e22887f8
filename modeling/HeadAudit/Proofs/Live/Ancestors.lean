import HeadAudit.Proofs.Live.Moves

namespace HeadAudit.Live.Tree

open Relation

variable {t : Tree} {kids : NodeId → List NodeId} {p q c d id : NodeId}

def Under (t : Tree) (c p : NodeId) : Prop := t.parent? c = some p

def Grounded (t : Tree) : Prop := WellFounded fun p c => t.Under c p

theorem Grounded.irrefl (h : t.Grounded) (id : NodeId) : ¬ TransGen t.Under id id := by
  intro hid
  have hw : WellFounded (TransGen fun p c => t.Under c p) := WellFounded.transGen h
  exact hw.irrefl.irrefl id (transGen_swap.mpr hid)

theorem Grounded.exists_top (h : t.Grounded) (id : NodeId) :
    ∃ top, ReflTransGen t.Under id top ∧ t.parent? top = none := by
  induction id using h.induction with
  | _ id ih =>
    cases hp : t.parent? id with
    | none => exact ⟨id, .refl, hp⟩
    | some p =>
      obtain ⟨top, htop, hn⟩ := ih p hp
      exact ⟨top, .head hp htop, hn⟩

theorem self_mem_lineage {fuel : Nat} (h : 0 < fuel) : id ∈ t.lineage fuel id := by
  cases fuel with
  | zero => simp at h
  | succ fuel =>
    rw [lineage]
    cases t.parent? id <;> simp

theorem mem_lineage {fuel : Nat} (h : d ∈ t.lineage fuel id) : ReflTransGen t.Under id d := by
  induction fuel generalizing id with
  | zero => simp [lineage] at h
  | succ fuel ih =>
    rw [lineage] at h
    cases hp : t.parent? id with
    | none =>
      rw [hp] at h
      rw [List.mem_singleton.mp h]
    | some p =>
      rw [hp] at h
      rcases List.mem_cons.mp h with rfl | h
      · exact .refl
      · exact .head hp (ih h)

theorem lineage_nodup (hg : t.Grounded) (fuel : Nat) (id : NodeId) :
    (t.lineage fuel id).Nodup := by
  induction fuel generalizing id with
  | zero => simp [lineage]
  | succ fuel ih =>
    rw [lineage]
    cases hp : t.parent? id with
    | none => simp
    | some p =>
      refine List.nodup_cons.mpr ⟨fun h => ?_, ih p⟩
      exact hg.irrefl id (.head' hp (mem_lineage h))

/-- As long as the fuel was not used up, the parents of all that was met were met, too. -/
theorem lineage_closed {fuel : Nat} (hl : (t.lineage fuel id).length < fuel)
    (hd : d ∈ t.lineage fuel id) (hp : t.Under d p) : p ∈ t.lineage fuel id := by
  induction fuel generalizing id with
  | zero => simp at hl
  | succ fuel ih =>
    rw [lineage] at hl hd ⊢
    cases hq : t.parent? id with
    | none =>
      rw [hq] at hd
      rw [List.mem_singleton.mp hd, Under, hq] at hp
      simp at hp
    | some q =>
      rw [hq] at hl hd
      have hl : (t.lineage fuel q).length < fuel := by simpa using hl
      rcases List.mem_cons.mp hd with rfl | hd
      · obtain rfl : q = p := Option.some.inj (hq.symm.trans hp)
        exact List.mem_cons_of_mem _ (self_mem_lineage (by omega))
      · exact List.mem_cons_of_mem _ (ih hl hd)

/-- Different nodes of a tree are at most as many as it has nodes. -/
theorem length_le_size {ids : List NodeId} (hn : ids.Nodup) (hc : ∀ id ∈ ids, t.contains id) :
    ids.length ≤ t.size := by
  have hi : Function.Injective NodeId.index := by
    rintro ⟨i⟩ ⟨j⟩ rfl
    rfl
  have hs : ids.map NodeId.index ⊆ List.range t.size := by
    intro i hi
    obtain ⟨id, hid, rfl⟩ := List.mem_map.mp hi
    exact List.mem_range.mpr ((t.contains_iff_lt id).mp (hc id hid))
  simpa using ((hn.map hi).subperm hs).length_le

/-- Where all that stands above a node is in the tree, the test for ancestors misses none. -/
theorem Grounded.isInclusiveAncestor_iff (hg : t.Grounded)
    (hc : t.contains id → ∀ d, ReflTransGen t.Under id d → t.contains d) (a : NodeId) :
    t.isInclusiveAncestor a id = true ↔ ReflTransGen t.Under id a := by
  rw [isInclusiveAncestor, decide_eq_true_iff]
  refine ⟨mem_lineage, fun ha => ?_⟩
  by_cases hid : t.contains id
  · have hlen : (t.lineage (t.size + 1) id).length ≤ t.size :=
      length_le_size (lineage_nodup hg _ _) fun d hd => hc hid d (mem_lineage hd)
    induction ha with
    | refl => exact self_mem_lineage (by omega)
    | tail _ hp ih => exact lineage_closed (by omega) ih hp
  -- An id of no node has nothing above it, and the walk starts with the id itself.
  · have hp : t.parent? id = none := by
      cases hp : t.parent? id with
      | none => rfl
      | some p => exact absurd (contains_of_parent? hp) hid
    obtain rfl : id = a := by
      rcases ReflTransGen.cases_head ha with rfl | ⟨q, hq, -⟩
      · rfl
      · rw [Under, hp] at hq
        simp at hq
    simp [lineage, hp]

namespace Linked

/-- Following the links to the next sibling from a cut on gives the rest of the list. -/
theorem chain_eq (h : t.Linked kids) {front back : List NodeId} (hk : kids p = front ++ back)
    {fuel : Nat} (hf : back.length ≤ fuel) : t.chain fuel (NodeId.firstOf back) = back := by
  induction back generalizing front fuel with
  | nil =>
    cases fuel with
    | zero => rfl
    | succ fuel => simp [chain, h.absent]
  | cons c back ih =>
    obtain ⟨n, hn, -, -, hnext⟩ := h.links_of_mem hk
    cases fuel with
    | zero => simp at hf
    | succ fuel =>
      have hcut : kids p = (front ++ [c]) ++ back := by simp [hk]
      have hrest : t.chain fuel (NodeId.firstOf back) = back := ih hcut (by simpa using hf)
      simp [chain, hn, hnext, hrest]

theorem firstChild_eq (h : t.Linked kids) {n : Node} (hn : t.get? p = some n) :
    n.firstChild = NodeId.firstOf (kids p) := by
  have ha := h.after ((t.contains_iff p).mpr ⟨n, hn⟩) (List.nil_append (kids p)).symm
  rw [← ha]
  simp [Tree.after, h.absent, hn]

theorem lastChild_eq (h : t.Linked kids) {n : Node} (hn : t.get? p = some n) :
    n.lastChild = NodeId.lastOf (kids p) := by
  have hb := h.before ((t.contains_iff p).mpr ⟨n, hn⟩) (List.append_nil (kids p)).symm
  rw [← hb]
  simp [Tree.before, h.absent, hn]

/-- The walk over the children meets all of them before its fuel is used up. -/
theorem children_eq (h : t.Linked kids) (p : NodeId) : t.children p = kids p := by
  cases hn : t.get? p with
  | some n =>
    have hlen : (kids p).length ≤ t.size :=
      length_le_size (h.nodup p) fun c hc => h.contains_of_mem hc
    rw [children, hn, Option.map_some, Option.getD_some, h.firstChild_eq hn]
    exact h.chain_eq (List.nil_append (kids p)).symm hlen
  | none =>
    rw [h.kids_of_not_contains ((t.contains_eq_false_iff p).mpr hn), children, hn]
    exact h.chain_eq (List.append_nil (kids p)).symm (Nat.zero_le _)

theorem eq_of_loose (h : t.Linked kids) {n : Node} (hn : t.get? c = some n)
    (hp : t.parent? c = none) : n =
      { firstChild := NodeId.firstOf (kids c), lastChild := NodeId.lastOf (kids c),
        content := n.content } := by
  obtain ⟨hparent, hprevious, hnext⟩ := h.links_of_loose hn hp
  rw [← h.firstChild_eq hn, ← h.lastChild_eq hn]
  cases n
  dsimp only at hparent hprevious hnext
  rw [hparent, hprevious, hnext]

theorem eq_of_mem (h : t.Linked kids) {front back : List NodeId} {n : Node}
    (hn : t.get? c = some n) (hk : kids p = front ++ c :: back) : n =
      { parent := p, firstChild := NodeId.firstOf (kids c), lastChild := NodeId.lastOf (kids c),
        previous := NodeId.lastOf front, next := NodeId.firstOf back, content := n.content } := by
  obtain ⟨m, hm, hparent, hprevious, hnext⟩ := h.links_of_mem hk
  obtain rfl := Option.some.inj (hn.symm.trans hm)
  rw [← h.firstChild_eq hn, ← h.lastChild_eq hn, ← hparent, ← hprevious, ← hnext]

theorem get?_eq_map {u : Tree} {kids' : NodeId → List NodeId} (h : t.Linked kids)
    (h' : u.Linked kids') (hc : u.content? d = t.content? d) (hp : u.parent? d = t.parent? d)
    (hlist : ∀ p, d ∈ kids p → kids' p = kids p) :
    u.get? d = (t.get? d).map fun n =>
      { n with firstChild := NodeId.firstOf (kids' d), lastChild := NodeId.lastOf (kids' d) } := by
  rcases get?_of_content?_eq hc with ⟨hu, ht⟩ | ⟨n, m, hn, hm, hcontent⟩
  · rw [hu, ht, Option.map_none]
  · rw [hn, hm, Option.map_some, Option.some.injEq]
    cases hpar : t.parent? d with
    | none => rw [h'.eq_of_loose hn (hp.trans hpar), h.eq_of_loose hm hpar, hcontent]
    | some p =>
      have hmem : d ∈ kids p := h.mem_iff.mpr hpar
      obtain ⟨front, back, hk⟩ := List.append_of_mem hmem
      rw [h'.eq_of_mem hn ((hlist p hmem).trans hk), h.eq_of_mem hm hk, hcontent]

theorem get?_eq {u : Tree} {kids' : NodeId → List NodeId} (h : t.Linked kids)
    (h' : u.Linked kids') (hc : u.content? d = t.content? d) (hp : u.parent? d = t.parent? d)
    (hd : kids' d = kids d) (hlist : ∀ p, d ∈ kids p → kids' p = kids p) :
    u.get? d = t.get? d := by
  rw [h.get?_eq_map h' hc hp hlist]
  cases hn : t.get? d with
  | none => rfl
  | some n => rw [Option.map_some, hd, ← h.firstChild_eq hn, ← h.lastChild_eq hn]

/-- A tree is known by its lists of children and the contents of its nodes. -/
theorem ext {u : Tree} (h : t.Linked kids) (h' : u.Linked kids)
    (hc : ∀ d, u.content? d = t.content? d) : u = t := by
  apply ext_get?
  intro d
  have hp : u.parent? d = t.parent? d := Option.ext fun p => by rw [← h'.mem_iff, ← h.mem_iff]
  exact h.get?_eq h' (hc d) hp rfl fun _ _ => rfl

theorem contains_of_above (h : t.Linked kids) (hid : t.contains id)
    (ha : ReflTransGen t.Under id d) : t.contains d := by
  induction ha with
  | refl => exact hid
  | tail _ hp _ => exact h.contains_parent hp

/-- The test for ancestors misses none. -/
theorem isInclusiveAncestor_iff (h : t.Linked kids) (hg : t.Grounded) (a : NodeId) :
    t.isInclusiveAncestor a id = true ↔ ReflTransGen t.Under id a :=
  hg.isInclusiveAncestor_iff (fun hid _ ha => h.contains_of_above hid ha) a

end Linked

theorem under_of_detach (h : (t.detach c).Under d p) : t.Under d p := by
  rw [Under, parent?_detach] at h
  split at h
  · simp at h
  · exact h

theorem above_of_detach (h : ReflTransGen (t.detach c).Under d p) : ReflTransGen t.Under d p :=
  ReflTransGen.mono (fun _ _ => under_of_detach) d p h

theorem Grounded.of_under {u : Tree} (hg : t.Grounded) (h : ∀ {c p}, u.Under c p → t.Under c p) :
    u.Grounded :=
  Subrelation.wf h hg

/-- A node that gets a new parent closes no cycle unless it stands above that parent. -/
theorem Grounded.of_moved {u : Tree} (hg : t.Grounded)
    (hu : ∀ d q, u.Under d q → d = c ∧ q = p ∨ t.Under d q)
    (hno : ¬ ReflTransGen t.Under p c) : u.Grounded := by
  have hbelow : ∀ d, ReflTransGen t.Under p d → Acc (fun q e => u.Under e q) d := by
    intro d
    induction d using hg.induction with
    | _ d ih =>
      intro hd
      refine ⟨d, fun q hq => ?_⟩
      rcases hu d q hq with ⟨rfl, -⟩ | hq
      · exact absurd hd hno
      · exact ih q hq (hd.tail hq)
  refine ⟨fun d => ?_⟩
  induction d using hg.induction with
  | _ d ih =>
    refine ⟨d, fun q hq => ?_⟩
    rcases hu d q hq with ⟨-, rfl⟩ | hq
    · exact hbelow q .refl
    · exact ih q hq

end HeadAudit.Live.Tree

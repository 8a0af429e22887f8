import HeadAudit.Proofs.Adapter.Walks

namespace HeadAudit.Live.Tree

open List Relation

variable {t : Tree} {tag : String} {rank : NodeId → Nat} {fuel : Nat} {ids : List NodeId}
  {id : NodeId}

inductive Follows (t : Tree) : NodeId → List NodeId → Prop
  | stop {id : NodeId} (h : t.get? id = none) : Follows t id []
  | step {id : NodeId} {n : Node} {ids : List NodeId} (h : t.get? id = some n)
      (hon : Follows t n.next ids) : Follows t id (id :: ids)

theorem Siblings.follows {previous first last : NodeId} (ha : t.get? .absent = none)
    (h : t.Siblings previous first ids last) : t.Follows first ids := by
  induction h with
  | nil => exact .stop ha
  | cons here _ _ ih => exact .step here ih

theorem Forest.follows_children (h : t.Forest t.children) (id : NodeId) :
    t.Follows (((t.get? id).map (·.firstChild)).getD .absent) (t.children id) := by
  cases hn : t.get? id with
  | none =>
    rw [h.linked.kids_of_not_contains ((t.contains_eq_false_iff id).mpr hn)]
    exact .stop h.linked.absent
  | some n => exact (h.sound.siblings id n hn).follows h.linked.absent

/-- The search for the first element with a tag, among nodes and what is below them: the nodes that
are looked at, and what is found. -/
inductive Searches (t : Tree) (tag : String) : List NodeId → List NodeId → Option NodeId → Prop
  | nil : Searches t tag [] [] none
  | here {c : NodeId} {ids : List NodeId} (hc : t.hasTag tag c = true) :
      Searches t tag (c :: ids) [c] (some c)
  | inside {c found : NodeId} {ids seen : List NodeId} (hc : t.hasTag tag c = false)
      (hin : Searches t tag (t.children c) seen (some found)) :
      Searches t tag (c :: ids) (c :: seen) (some found)
  | on {c : NodeId} {ids seen seen' : List NodeId} {found : Option NodeId}
      (hc : t.hasTag tag c = false) (hin : Searches t tag (t.children c) seen none)
      (hon : Searches t tag ids seen' found) :
      Searches t tag (c :: ids) (c :: (seen ++ seen')) found

theorem exists_searches (hr : ∀ {p c}, c ∈ t.children p → rank c < rank p)
    (hf : ∀ c ∈ ids, rank c < fuel) (tag : String) :
    ∃ seen, t.Searches tag ids seen
        (ids.findSome? fun c => if t.hasTag tag c then some c else t.findWithin tag fuel c) ∧
      seen <+ ids.flatMap (preorder t.children fuel) := by
  induction fuel generalizing ids with
  | zero =>
    cases ids with
    | nil => exact ⟨[], .nil, .refl _⟩
    | cons c ids => exact absurd (hf c mem_cons_self) (Nat.not_lt_zero _)
  | succ fuel ihf =>
    induction ids with
    | nil => exact ⟨[], .nil, .refl _⟩
    | cons c ids ih =>
      obtain ⟨hc, hids⟩ := forall_mem_cons.mp hf
      obtain ⟨seen', hon, hseen'⟩ := ih hids
      have hlow : ∀ d ∈ t.children c, rank d < fuel :=
        fun d hd => Nat.lt_of_lt_of_le (hr hd) (Nat.le_of_lt_succ hc)
      obtain ⟨seen, hin, hseen⟩ := ihf hlow
      rw [← findWithin] at hin
      rw [flatMap_cons, findSome?_cons, preorder]
      cases ht : t.hasTag tag c with
      | true => exact ⟨[c], .here ht, sublist_append_left [c] _⟩
      | false =>
        rw [if_neg Bool.false_ne_true]
        cases hw : t.findWithin tag (fuel + 1) c with
        | some found =>
          rw [hw] at hin
          exact ⟨c :: seen, .inside ht hin, (hseen.trans (sublist_append_left _ _)).cons_cons c⟩
        | none =>
          rw [hw] at hin
          exact ⟨c :: (seen ++ seen'), .on ht hin hon, (hseen.append hseen').cons_cons c⟩

theorem Forest.treelike (h : t.Forest t.children) : Treelike t.children t.rank where
  rank_lt := fun hc => h.rank_lt (h.linked.mem_iff.mp hc)
  unique := h.linked.parent_unique
  nodup := h.linked.nodup

theorem adapter_children_sublist (t : Tree) (id : NodeId) :
    t.adapter.children id <+ t.children id := by
  change (if t.isElement id then (t.children id).filter t.isElement else []) <+ _
  split
  · exact filter_sublist
  · exact nil_sublist _

/-- Every loop over the links of a tree ends and visits no node twice, and comes to what the tree
and its adapter tell. -/
structure Terminates (t : Tree) : Prop where
  children : ∀ id, t.Follows (((t.get? id).map (·.firstChild)).getD .absent) (t.children id) ∧
    (t.children id).Nodup
  isInclusiveAncestor : ∀ ancestor id, ∃ seen last,
    Climbs t.parent? (· = ancestor) id seen last ∧ seen.Nodup ∧
      (t.isInclusiveAncestor ancestor id ↔ last = ancestor)
  findElement : ∀ start tag, ∃ seen,
    t.Searches tag (t.children start) seen (t.findElement start tag) ∧ seen.Nodup
  root : ∀ id, ∃ seen,
    Climbs t.adapter.parent (fun _ => False) id seen (t.adapter.root id) ∧ seen.Nodup
  outerHtml : ∀ id, ∃ seen,
    t.adapter.Emits none ([id].filter t.isElement) seen (t.adapter.outerHtml id) false ∧ seen.Nodup
  endOffset? : ∀ id, ∃ seen s stops,
    t.adapter.Emits (some id) (([id].filter t.isElement).map t.adapter.root) seen s stops ∧
      seen.Nodup ∧ t.adapter.endOffset? id = if stops then some s.utf8ByteSize else none
  inspects : ∀ head, ∃ seen : NodeId → List NodeId,
    (∀ child ∈ t.adapter.children head, Check.Head.Inspects t.adapter child (seen child)
      (Check.Head.illegalBelow t.adapter (t.size + 1) child)) ∧
      ((t.adapter.children head).flatMap seen).Nodup
  analysis : ∀ n ctx options head, t.size ≤ n →
    Analysis.run { t.adapter with height := n } ctx options head =
      Analysis.run t.adapter ctx options head

theorem rank_lt_size (h : 0 < t.size) (id : NodeId) : t.rank id < t.size := by
  have hlen : 0 < (t.lineage (t.size + 1) id).length :=
    length_pos_of_mem (self_mem_lineage (Nat.succ_pos _))
  rw [rank]
  omega

theorem Forest.terminates (h : t.Forest t.children) : t.Terminates := by
  have htree : Treelike t.children t.rank := h.treelike
  have hadapter : Treelike t.adapter.children t.rank := htree.of_sublist t.adapter_children_sublist
  have hranked := h.ranked
  constructor
  case children => exact fun id => ⟨h.follows_children id, h.linked.nodup id⟩
  case isInclusiveAncestor =>
    intro ancestor id
    obtain ⟨seen, last, hup⟩ := exists_climbs h.grounded (· = ancestor) id
    refine ⟨seen, last, hup, hup.nodup h.grounded, ?_⟩
    rw [h.linked.isInclusiveAncestor_iff h.grounded, hup.last_eq_iff]
    rfl
  case findElement =>
    intro start tag
    have hpos : 0 < t.size := (t.contains_iff_lt .root).mp h.contains_root
    obtain ⟨k, hk⟩ : ∃ k, t.size = k + 1 := ⟨t.size - 1, by omega⟩
    -- Every level down has a lower rank, so the bound is not reached.
    have hlow : ∀ c ∈ t.children start, t.rank c < k := by
      intro c hc
      have hlt := htree.rank_lt hc
      have hle := rank_lt_size hpos start
      omega
    obtain ⟨seen, hs, hseen⟩ := exists_searches htree.rank_lt hlow tag
    refine ⟨seen, ?_, (htree.nodup_flatMap_preorder k start).sublist hseen⟩
    rwa [findElement, hk, findWithin]
  case root =>
    intro id
    have hwell : WellFounded fun p c => t.adapter.parent c = some p :=
      Subrelation.wf (fun hu => (adapter_under_iff.mp hu).1) h.grounded
    obtain ⟨seen, last, hup⟩ := exists_climbs hwell (fun _ => False) id
    have hlast : last = t.adapter.root id :=
      Adapter.top_unique (hup.above hup.last_mem) (hup.stops.resolve_left not_false)
        (t.adapter.above_ascend _ id) (hranked.parent_root id)
    exact ⟨seen, hlast ▸ hup, hup.nodup hwell⟩
  case outerHtml => exact Adapter.exists_emits_outerHtml hadapter hranked.rank_le
  case endOffset? => exact Adapter.exists_emits_endOffset? hadapter hranked.rank_le
  case inspects =>
    intro head
    exact ⟨Check.Head.inspected t.adapter,
      fun child _ => Check.Head.inspects_illegalBelow (h.isFinite child),
      Check.Head.nodup_inspected hadapter hranked.rank_le head⟩
  case analysis =>
    intro n ctx options head hn
    exact analysis_recast (hranked.fitsIn hadapter.rank_lt hn) ctx options head

/-- No run of edits makes a loop endless, refused calls included. -/
theorem terminates_of_run (edits : List Edit) (hs : (Tree.empty.run edits).size < 2 ^ 32 - 1) :
    (Tree.empty.run edits).Terminates :=
  (forest_of_run edits hs).terminates

theorem terminates_of_run_restlessEdits :
    (Tree.empty.run restlessEdits).size < 2 ^ 32 - 1 ∧ (Tree.empty.run restlessEdits).Terminates ∧
      ∃ seen, Climbs (Tree.empty.run restlessEdits).parent? (· = .root) ⟨6⟩ seen .root ∧
        seen.Nodup := by
  have hs : (Tree.empty.run restlessEdits).size < 2 ^ 32 - 1 := by decide +kernel
  have h := terminates_of_run restlessEdits hs
  obtain ⟨seen, last, hup, hn, hlast⟩ := h.isInclusiveAncestor .root ⟨6⟩
  obtain rfl : last = .root := hlast.mp (by decide +kernel)
  exact ⟨hs, h, seen, hup, hn⟩

end HeadAudit.Live.Tree

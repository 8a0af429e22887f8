import HeadAudit.Proofs.Live.Elements
import HeadAudit.Proofs.Markup.Layout
import HeadAudit.Proofs.Parity.Offset

namespace HeadAudit

open List Relation Written

variable {ν : Type}

structure Increasing (lo hi : Nat) (offsets : List Nat) : Prop where
  bounds : ∀ k ∈ offsets, lo < k ∧ k ≤ hi
  pairwise : offsets.Pairwise (· < ·)

section Offsets

variable {lo mid hi : Nat} {ks ls : List Nat}

theorem increasing_nil (lo hi : Nat) : Increasing lo hi [] := ⟨nofun, .nil⟩

theorem increasing_singleton (h : lo < hi) : Increasing lo hi [hi] := by
  refine ⟨fun k hk => ?_, pairwise_singleton _ _⟩
  rw [mem_singleton.mp hk]
  exact ⟨h, le_refl _⟩

theorem Increasing.lower (h : Increasing mid hi ks) (hlo : lo ≤ mid) : Increasing lo hi ks where
  bounds := fun k hk => ⟨hlo.trans_lt (h.bounds k hk).1, (h.bounds k hk).2⟩
  pairwise := h.pairwise

theorem Increasing.append (h : Increasing lo mid ks) (h' : Increasing mid hi ls) (hlo : lo ≤ mid)
    (hhi : mid ≤ hi) : Increasing lo hi (ks ++ ls) := by
  constructor
  case bounds =>
    intro k hk
    obtain hk | hk := mem_append.mp hk
    · exact ⟨(h.bounds k hk).1, (h.bounds k hk).2.trans hhi⟩
    · exact ⟨hlo.trans_lt (h'.bounds k hk).1, (h'.bounds k hk).2⟩
  case pairwise =>
    refine pairwise_append.mpr ⟨h.pairwise, h'.pairwise, fun k hk l hl => ?_⟩
    exact (h.bounds k hk).2.trans_lt (h'.bounds l hl).1

end Offsets

def EndsAt (w : String) (stop : Nat) (s : String) (pos : Nat) : Prop :=
  ∃ front back, s = front ++ w ++ back ∧ pos + (front ++ w).utf8ByteSize = stop

theorem EndsAt.between {w s : String} {stop pos : Nat} (front back : String)
    (h : EndsAt w stop s (pos + front.utf8ByteSize)) : EndsAt w stop (front ++ s ++ back) pos := by
  obtain ⟨before, behind, rfl, hp⟩ := h
  refine ⟨front ++ before, behind ++ back, ?_, ?_⟩
  · simp only [String.append_assoc]
  · rw [String.append_assoc, String.utf8ByteSize_append, ← Nat.add_assoc, hp]

theorem endsAt_self (w : String) (pos : Nat) : EndsAt w (pos + w.utf8ByteSize) w pos :=
  ⟨"", "", by rw [String.empty_append, String.append_empty], by rw [String.empty_append]⟩

namespace Adapter

theorem size_concat (write : ν → String) (nodes : List ν) :
    ("".intercalate (nodes.map write)).utf8ByteSize =
      (nodes.map fun node => (write node).utf8ByteSize).sum := by
  induction nodes with
  | nil => rfl
  | cons node nodes ih =>
    rw [map_cons, joined_cons, String.utf8ByteSize_append, ih, map_cons, sum_cons]

theorem increasing_inTurn {size : ν → Nat} {ends : ν → Nat → List (ν × Nat)}
    (h : ∀ node pos, Increasing pos (pos + size node) ((ends node pos).map (·.2)))
    (nodes : List ν) (pos : Nat) :
    Increasing pos (pos + (nodes.map size).sum) ((inTurn size ends nodes pos).map (·.2)) := by
  induction nodes generalizing pos with
  | nil => exact increasing_nil _ _
  | cons node nodes ih =>
    rw [inTurn, map_append, map_cons, sum_cons, ← Nat.add_assoc]
    exact (h node pos).append (ih (pos + size node)) (Nat.le_add_right _ _) (Nat.le_add_right _ _)

def writtenChildren (a : Adapter ν) (node : ν) : List ν :=
  if isVoid (a.tagName node) then [] else a.children node

def textEnd (a : Adapter ν) (node : ν) (pos : Nat) : Nat :=
  pos + (a.writeStart node).utf8ByteSize + (text (a.tagName node) (a.textContent node)).utf8ByteSize

/-- The elements that are written for a node, each with the byte behind it, in the order in which
they end. The markup of the node begins at `pos`. -/
def ends (a : Adapter ν) : Nat → ν → Nat → List (ν × Nat)
  | 0, _, _ => []
  | fuel + 1, node, pos =>
    inTurn (fun child => (a.write fuel child).utf8ByteSize) (ends a fuel) (a.writtenChildren node)
        (a.textEnd node pos) ++
      [(node, pos + (a.write (fuel + 1) node).utf8ByteSize)]

variable {a : Adapter ν} {root node target c x : ν} {rank : ν → Nat} {fuel pos stop : Nat}

theorem map_fst_ends (a : Adapter ν) (fuel : Nat) (node : ν) (pos : Nat) :
    (a.ends fuel node pos).map (·.1) = postorder a.writtenChildren fuel node := by
  induction fuel generalizing node pos with
  | zero => rfl
  | succ fuel ih =>
    rw [ends, postorder, map_append, map_fst_inTurn ih]
    rfl

theorem writtenChildren_of_isVoid (h : isVoid (a.tagName node) = true) :
    a.writtenChildren node = [] := if_pos h

theorem writtenChildren_of_not_isVoid (h : isVoid (a.tagName node) = false) :
    a.writtenChildren node = a.children node := by
  rw [writtenChildren, h, if_neg Bool.false_ne_true]

theorem size_writeStart_pos (a : Adapter ν) (node : ν) : 0 < (a.writeStart node).utf8ByteSize := by
  rw [writeStart, openTag, String.utf8ByteSize_append]
  exact Nat.add_pos_right _ (by decide)

theorem size_endTag_pos (tag : String) : 0 < (endTag tag).utf8ByteSize := by
  rw [endTag, String.utf8ByteSize_append]
  exact Nat.add_pos_right _ (by decide)

theorem size_write (h : isVoid (a.tagName node) = false) (fuel pos : Nat) :
    pos + (a.write (fuel + 1) node).utf8ByteSize =
      a.textEnd node pos +
        ((a.children node).map fun child => (a.write fuel child).utf8ByteSize).sum +
        (endTag (a.tagName node)).utf8ByteSize := by
  simp only [write_of_not_isVoid h, String.utf8ByteSize_append, size_concat, textEnd, Nat.add_assoc]

theorem ends_of_isVoid (h : isVoid (a.tagName node) = true) (fuel pos : Nat) :
    a.ends (fuel + 1) node pos = [(node, pos + (a.writeStart node).utf8ByteSize)] := by
  rw [ends, writtenChildren_of_isVoid h, write_of_isVoid h]
  rfl

theorem increasing_ends (a : Adapter ν) (fuel : Nat) (node : ν) (pos : Nat) :
    Increasing pos (pos + (a.write fuel node).utf8ByteSize) ((a.ends fuel node pos).map (·.2)) := by
  induction fuel generalizing node pos with
  | zero => exact increasing_nil _ _
  | succ fuel ih =>
    cases hv : isVoid (a.tagName node) with
    | true =>
      rw [ends_of_isVoid hv, write_of_isVoid hv]
      exact increasing_singleton (Nat.lt_add_of_pos_right (a.size_writeStart_pos node))
    | false =>
      have hend := size_endTag_pos (a.tagName node)
      have hsize := size_write hv fuel pos
      have hstart : pos ≤ a.textEnd node pos := by
        rw [textEnd]
        omega
      have hinner := (increasing_inTurn ih (a.children node) (a.textEnd node pos)).lower hstart
      rw [ends, map_append, writtenChildren_of_not_isVoid hv]
      apply hinner.append
      · exact increasing_singleton (by omega)
      · omega
      · omega

section Seek

variable [DecidableEq ν]

def stopAt (found : Option Nat) (behind : Nat) : Except Nat Nat := found.elim (.ok behind) .error

theorem foldlM_inTurn {size : ν → Nat} {ends : ν → Nat → List (ν × Nat)}
    {f : Nat → ν → Except Nat Nat} (nodes : List ν)
    (h : ∀ node pos, f pos node = stopAt ((ends node pos).lookup target) (pos + size node)) :
    nodes.foldlM f pos =
      stopAt ((inTurn size ends nodes pos).lookup target) (pos + (nodes.map size).sum) := by
  induction nodes generalizing pos with
  | nil => rfl
  | cons node nodes ih =>
    rw [foldlM_cons, h, inTurn, lookup_append, map_cons, sum_cons, ← Nat.add_assoc]
    cases (ends node pos).lookup target with
    | some stop => rfl
    | none => exact ih

theorem seek_eq (a : Adapter ν) (target : ν) (fuel : Nat) (node : ν) (pos : Nat) :
    a.seek target fuel node pos =
      stopAt ((a.ends fuel node pos).lookup target) (pos + (a.write fuel node).utf8ByteSize) := by
  induction fuel generalizing node pos with
  | zero => rfl
  | succ fuel ih =>
    have hself : ∀ stop, (if node = target then Except.error stop else .ok stop) =
        stopAt ([(node, stop)].lookup target) stop := by
      intro stop
      by_cases he : node = target
      · rw [if_pos he, he, lookup_cons, beq_self_eq_true]
        rfl
      · rw [if_neg he, lookup_cons, beq_false_of_ne (Ne.symm he)]
        rfl
    rw [seek_succ, seekBehind]
    cases hv : isVoid (a.tagName node) with
    | true =>
      rw [if_pos rfl, ends_of_isVoid hv, write_of_isVoid hv]
      exact hself _
    | false =>
      have hinside : a.seekInside target fuel node pos = _ :=
        foldlM_inTurn (a.children node) fun child pos => ih child pos
      rw [if_neg Bool.false_ne_true, hinside, ends, writtenChildren_of_not_isVoid hv, lookup_append,
        size_write hv]
      change (Except.map _ (stopAt ((inTurn _ _ _ (a.textEnd node pos)).lookup target) _)).bind _ =
        _
      cases (inTurn (fun child => (a.write fuel child).utf8ByteSize) (a.ends fuel) (a.children node)
        (a.textEnd node pos)).lookup target with
      | some stop => rfl
      | none => exact hself _

end Seek

section Rank

variable (hr : ∀ {p c}, Below a root p → c ∈ a.children p → rank c < rank p)

include hr

theorem write_congr (hx : Below a root x) {fuel' : Nat} (hf : rank x < fuel)
    (hf' : rank x < fuel') : a.write fuel x = a.write fuel' x := by
  induction fuel generalizing x fuel' with
  | zero => exact absurd hf (Nat.not_lt_zero _)
  | succ fuel ih =>
    obtain ⟨fuel', rfl⟩ : ∃ k, fuel' = k + 1 := ⟨fuel' - 1, by omega⟩
    cases hv : isVoid (a.tagName x) with
    | true => rw [write_of_isVoid hv, write_of_isVoid hv]
    | false =>
      have hchildren : (a.children x).map (a.write fuel) = (a.children x).map (a.write fuel') := by
        apply map_congr_left
        intro c hc
        have hlt := hr hx hc
        exact ih (hx.child hc) (by omega) (by omega)
      rw [write_of_not_isVoid hv, write_of_not_isVoid hv, hchildren]

theorem endsAt_ends {full : Nat} (hfull : ∀ x, Below a root x → rank x < full)
    (hn : Below a root node) (hf : rank node < fuel) (hx : (x, stop) ∈ a.ends fuel node pos) :
    EndsAt (a.write full x) stop (a.write fuel node) pos := by
  induction fuel generalizing node pos with
  | zero => cases hx
  | succ fuel ih =>
    rw [ends, mem_append] at hx
    obtain hx | hx := hx
    · cases hv : isVoid (a.tagName node) with
      | true =>
        rw [writtenChildren_of_isVoid hv] at hx
        cases hx
      | false =>
        rw [writtenChildren_of_not_isVoid hv, textEnd, Nat.add_assoc,
          ← String.utf8ByteSize_append] at hx
        rw [write_of_not_isVoid hv]
        refine (holds_inTurn (P := EndsAt (a.write full x) stop) ?_ (fun child hc pos hx => ?_)
          hx).between _ _
        · exact fun front back _ _ => .between front back
        · have hlt := hr hn hc
          exact ih (hn.child hc) (by omega) hx
    · cases mem_singleton.mp hx
      rw [write_congr hr hn (hfull _ hn) hf]
      exact endsAt_self _ pos

end Rank

/-- The element stands below a void one. -/
def Hidden (a : Adapter ν) (x : ν) : Prop := ∃ p, TransGen a.Under x p ∧ isVoid (a.tagName p)

theorem not_hidden_root (h : a.IsTree root) : ¬ a.Hidden root := by
  rintro ⟨p, hp, -⟩
  obtain ⟨q, hq, -⟩ := TransGen.head'_iff.mp hp
  exact absurd (h.top.symm.trans hq) nofun

theorem hidden_child_iff (h : a.IsTree root) (hn : Below a root node) (hc : c ∈ a.children node) :
    a.Hidden c ↔ isVoid (a.tagName node) ∨ a.Hidden node := by
  have hu := h.under_of_mem hn hc
  constructor
  · rintro ⟨p, hp, hv⟩
    obtain ⟨q, hq, hqp⟩ := TransGen.head'_iff.mp hp
    obtain rfl : node = q := Option.some.inj (hu.symm.trans hq)
    obtain rfl | hqp := reflTransGen_iff_eq_or_transGen.mp hqp
    · exact .inl hv
    · exact .inr ⟨p, hqp, hv⟩
  · rintro (hv | ⟨p, hp, hv⟩)
    · exact ⟨node, .single hu, hv⟩
    · exact ⟨p, .head hu hp, hv⟩

theorem mem_writtenChildren :
    c ∈ a.writtenChildren node ↔ ¬ isVoid (a.tagName node) ∧ c ∈ a.children node := by
  by_cases hv : isVoid (a.tagName node) <;> simp [writtenChildren, hv]

theorem writtenChildren_sublist (node : ν) : a.writtenChildren node <+ a.children node := by
  rw [writtenChildren]
  split
  · exact nil_sublist _
  · exact .refl _

theorem below_of_reaches_written (h : Reaches a.writtenChildren root x) : Below a root x :=
  below_iff_reaches.mpr
    (ReflTransGen.mono (fun _ _ hm => (mem_writtenChildren.mp hm).2) _ _ h)

/-- All elements are written but those below a void one. -/
theorem reaches_written_iff (h : a.IsTree root) (hx : Below a root x) :
    Reaches a.writtenChildren root x ↔ ¬ a.Hidden x := by
  induction hx with
  | head => exact ⟨fun _ => not_hidden_root h, fun _ => .refl⟩
  | @child node c hn hc ih =>
    have hu := h.under_of_mem hn hc
    rw [hidden_child_iff h hn hc, not_or, ← ih]
    constructor
    · intro hreach
      obtain rfl | ⟨q, hq, hcq⟩ := hreach.cases_tail
      · exact absurd (h.top.symm.trans hu) nofun
      · obtain ⟨hv, hcq⟩ := mem_writtenChildren.mp hcq
        have hq' := h.under_of_mem (below_of_reaches_written hq) hcq
        obtain rfl : q = node := Option.some.inj (hq'.symm.trans hu)
        exact ⟨hv, hq⟩
    · rintro ⟨hv, hreach⟩
      exact hreach.tail (mem_writtenChildren.mpr ⟨hv, hc⟩)

variable [DecidableEq ν]

theorem filterMap_lookup {nodes : List ν} {table : List (ν × Nat)}
    (hs : table.map (·.1) <+ nodes) (hn : nodes.Nodup) :
    nodes.filterMap (fun x => table.lookup x) = table.map (·.2) := by
  induction nodes generalizing table with
  | nil =>
    rw [map_eq_nil_iff.mp (sublist_nil.mp hs)]
    rfl
  | cons node nodes ih =>
    obtain ⟨hnot, hrest⟩ := nodup_cons.mp hn
    obtain hskip | ⟨keys, hk, hskip⟩ := sublist_cons_iff.mp hs
    · have hnone : table.lookup node = none := by
        rw [lookup_eq_none_iff]
        intro e he
        apply bne_iff_ne.mpr
        rintro rfl
        exact hnot (hskip.subset (mem_map_of_mem he))
      rw [filterMap_cons, hnone]
      exact ih hskip hrest
    · obtain ⟨⟨key, stop⟩, table, rfl, rfl, rfl⟩ := map_eq_cons_iff.mp hk
      have hself : ((key, stop) :: table).lookup key = some stop := by
        rw [lookup_cons, beq_self_eq_true]
      have hlater : nodes.filterMap (fun x => ((key, stop) :: table).lookup x) =
          nodes.filterMap fun x => table.lookup x := by
        apply filterMap_congr
        intro x hx
        have hne : x ≠ key := fun he => hnot (he ▸ hx)
        rw [lookup_cons, beq_false_of_ne hne]
      rw [filterMap_cons, hself, hlater, ih hskip hrest]
      rfl

theorem endOffset?_eq (h : a.IsTree root) (hx : Below a root x) :
    a.endOffset? x = (a.ends (a.height + 1) root 0).lookup x := by
  obtain ⟨rank, hroot, hr⟩ := h.finite
  have hup : a.root x = root := h.ascend_eq hr hx (by omega)
  rw [endOffset?, if_pos (h.isElement_of_below hx), hup, seek_eq]
  cases (a.ends (a.height + 1) root 0).lookup x <;> rfl

/-- What the offsets of the elements of a tree tell. -/
structure LocatesEnds (a : Adapter ν) (root : ν) : Prop where
  root_eq : ∀ {x}, Below a root x → a.root x = root
  hidden : ∀ {x}, Below a root x → a.Hidden x → a.endOffset? x = none
  shown : ∀ {x}, Below a root x → ¬ a.Hidden x →
    ∃ front back, a.outerHtml root = front ++ a.outerHtml x ++ back ∧
      a.endOffset? x = some (front ++ a.outerHtml x).utf8ByteSize
  whole : a.endOffset? root = some (a.outerHtml root).utf8ByteSize
  mem_postorder : ∀ x, x ∈ postorder a.children (a.height + 1) root ↔ Below a root x
  increasing :
    ((postorder a.children (a.height + 1) root).filterMap a.endOffset?).Pairwise (· < ·)

theorem exists_lookup_iff (hr : ∀ {p c}, Below a root p → c ∈ a.children p → rank c < rank p)
    (h : a.IsTree root) (hx : Below a root x) (hf : rank root < fuel) :
    (∃ stop, (a.ends fuel root pos).lookup x = some stop) ↔ ¬ a.Hidden x := by
  have hmem : x ∈ (a.ends fuel root pos).map (·.1) ↔ Reaches a.writtenChildren root x := by
    rw [map_fst_ends]
    refine mem_postorder (fun p hp c hc => ?_) hf
    exact hr (below_of_reaches_written hp) (mem_writtenChildren.mp hc).2
  rw [← reaches_written_iff h hx, ← hmem, mem_map, ← Option.isSome_iff_exists, lookup_isSome_iff]
  exact exists_congr fun e => and_congr_right fun _ => by rw [beq_iff_eq, eq_comm]

/-- In every tree, the offset of an element is the number of bytes up to its end in the markup of
the root, and elements that end later have higher offsets. -/
theorem IsTree.locatesEnds (h : a.IsTree root) : a.LocatesEnds root := by
  obtain ⟨rank, hroot, hr⟩ := h.finite
  have hfull : ∀ x, Below a root x → rank x < a.height + 1 := by
    intro x hx
    have hle := h.rank_le_of_above hr hx (h.above_of_below .head hx)
    omega
  have hself : rank root < a.height + 1 := hfull root .head
  have houter : ∀ {x}, Below a root x → a.outerHtml x = a.write (a.height + 1) x :=
    fun hx => if_pos (h.isElement_of_below hx)
  have hmem : ∀ x, x ∈ postorder a.children (a.height + 1) root ↔ Below a root x :=
    fun x => mem_postorder_iff hr .head hself
  -- What is written for the root up to the end of an element is what the walk has passed there.
  have hshown : ∀ {x}, Below a root x → ¬ a.Hidden x →
      ∃ front back, a.outerHtml root = front ++ a.outerHtml x ++ back ∧
        a.endOffset? x = some (front ++ a.outerHtml x).utf8ByteSize := by
    intro x hx hs
    obtain ⟨stop, hstop⟩ := (exists_lookup_iff hr h hx hself).mpr hs
    obtain ⟨before, behind, hl, -⟩ := lookup_eq_some_iff.mp hstop
    have hin : (x, stop) ∈ a.ends (a.height + 1) root 0 := by
      rw [hl]
      exact mem_append_right before mem_cons_self
    obtain ⟨front, back, hw, he⟩ := endsAt_ends hr hfull .head hself hin
    refine ⟨front, back, ?_, ?_⟩
    · rw [houter .head, houter hx, hw]
    · rw [endOffset?_eq h hx, hstop, houter hx, ← he, Nat.zero_add]
  constructor
  case root_eq => exact fun hx => h.ascend_eq hr hx (by omega)
  case hidden =>
    intro x hx hs
    rw [endOffset?_eq h hx, ← Option.not_isSome_iff_eq_none, Option.isSome_iff_exists,
      exists_lookup_iff hr h hx hself, not_not]
    exact hs
  case shown => exact hshown
  case whole =>
    obtain ⟨front, back, hw, he⟩ := hshown .head (not_hidden_root h)
    have hsize := congrArg String.utf8ByteSize hw
    rw [String.utf8ByteSize_append, String.utf8ByteSize_append] at hsize
    rw [he, String.utf8ByteSize_append]
    congr 1
    omega
  case mem_postorder => exact hmem
  case increasing =>
    have hoffsets : (postorder a.children (a.height + 1) root).filterMap a.endOffset? =
        (postorder a.children (a.height + 1) root).filterMap
          fun x => (a.ends (a.height + 1) root 0).lookup x :=
      filterMap_congr fun x hx => endOffset?_eq h ((hmem x).mp hx)
    have hkeys : (a.ends (a.height + 1) root 0).map (·.1) <+
        postorder a.children (a.height + 1) root := by
      rw [map_fst_ends]
      exact postorder_sublist writtenChildren_sublist _ _
    rw [hoffsets, filterMap_lookup hkeys (h.nodup_postorder hr .head hself)]
    exact (a.increasing_ends (a.height + 1) root 0).pairwise

end Adapter

/-- An element below a void one has no offset, and the elements around it have theirs. -/
theorem locatesEnds_spiked :
    spiked.IsTree ⟨1⟩ ∧ spiked.LocatesEnds ⟨1⟩ ∧ spiked.Hidden ⟨6⟩ ∧
      spiked.endOffset? ⟨6⟩ = none ∧ spiked.endOffset? ⟨5⟩ = some 87 := by
  have hs : (Live.Tree.empty.run spikedEdits).size ≤ Live.NodeId.absent.index := by decide +kernel
  have hf := Live.Tree.forest_of_changes (Live.Tree.empty.changes_run spikedEdits)
    Live.Tree.forest_empty.children hs
  have htree : spiked.IsTree ⟨1⟩ := hf.isTree (by decide +kernel) (by decide +kernel)
  have hhidden : spiked.Hidden ⟨6⟩ :=
    ⟨⟨5⟩, .single (by change spiked.parent ⟨6⟩ = some ⟨5⟩; decide +kernel), by decide +kernel⟩
  have hbelow : Below spiked ⟨1⟩ ⟨6⟩ :=
    ((Below.head.child (by decide +kernel : (⟨2⟩ : Live.NodeId) ∈ spiked.children ⟨1⟩)).child
      (by decide +kernel : (⟨5⟩ : Live.NodeId) ∈ spiked.children ⟨2⟩)).child (by decide +kernel)
  exact ⟨htree, htree.locatesEnds, hhidden, htree.locatesEnds.hidden hbelow hhidden,
    by decide +kernel⟩

end HeadAudit

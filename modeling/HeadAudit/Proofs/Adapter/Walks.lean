import HeadAudit.Proofs.Adapter.Offsets
import HeadAudit.Proofs.Check.Survey
import HeadAudit.Proofs.Report.Located

namespace HeadAudit

open List Relation

variable {ν : Type}

/-- Lists of what is right below a node, as in a tree: nothing stands below two nodes or twice below
one, and what is lower ranks lower. -/
structure Treelike (below : ν → List ν) (rank : ν → Nat) : Prop where
  rank_lt : ∀ {p c}, c ∈ below p → rank c < rank p
  unique : ∀ {p q c}, c ∈ below p → c ∈ below q → p = q
  nodup : ∀ p, (below p).Nodup

section Treelike

variable {below fewer : ν → List ν} {rank : ν → Nat} {node p c d x : ν} {fuel : Nat}

theorem Treelike.of_sublist (h : Treelike below rank) (hs : ∀ p, fewer p <+ below p) :
    Treelike fewer rank where
  rank_lt := fun hc => h.rank_lt ((hs _).subset hc)
  unique := fun hp hq => h.unique ((hs _).subset hp) ((hs _).subset hq)
  nodup := fun p => (h.nodup p).sublist (hs p)

theorem reaches_of_mem_preorder (hx : x ∈ preorder below fuel node) : Reaches below node x := by
  induction fuel generalizing node with
  | zero => cases hx
  | succ fuel ih =>
    rcases mem_cons.mp hx with rfl | hx
    · exact .refl
    · obtain ⟨c, hc, hx⟩ := mem_flatMap.mp hx
      exact .head hc (ih hx)

namespace Treelike

variable (h : Treelike below rank)

include h

theorem rank_le (hx : Reaches below node x) : rank x ≤ rank node := by
  induction hx with
  | refl => exact le_refl _
  | tail _ hc ih => exact (h.rank_lt hc).le.trans ih

theorem child_unique (hc : c ∈ below p) (hd : d ∈ below p) (hcx : Reaches below c x)
    (hdx : Reaches below d x) : c = d := by
  have heq : ∀ {c d}, c ∈ below p → d ∈ below p → Reaches below c d → c = d := by
    intro c d hc hd hcd
    obtain he | ⟨q, hcq, hq⟩ := hcd.cases_tail
    · exact he.symm
    · have hle := h.rank_le hcq
      rw [h.unique hq hd] at hle
      exact absurd (h.rank_lt hc) (by omega)
  have hup : Relator.RightUnique (Function.swap fun p c => c ∈ below p) := fun _ _ _ => h.unique
  rcases ReflTransGen.total_of_right_unique hup (reflTransGen_swap.mpr hcx)
    (reflTransGen_swap.mpr hdx) with hdc | hcd
  · exact (heq hd hc (reflTransGen_swap.mp hdc)).symm
  · exact heq hc hd (reflTransGen_swap.mp hcd)

theorem nodup_preorder (fuel : Nat) (node : ν) : (preorder below fuel node).Nodup := by
  induction fuel generalizing node with
  | zero => exact nodup_nil
  | succ fuel ih =>
    rw [preorder, nodup_cons]
    constructor
    · intro hm
      obtain ⟨c, hc, hx⟩ := mem_flatMap.mp hm
      have hle := h.rank_le (reaches_of_mem_preorder hx)
      exact absurd (h.rank_lt hc) (by omega)
    · refine nodup_flatMap.mpr ⟨fun c _ => ih c, (h.nodup node).imp_of_mem ?_⟩
      intro c d hc hd hne x hxc hxd
      exact hne (h.child_unique hc hd (reaches_of_mem_preorder hxc) (reaches_of_mem_preorder hxd))

theorem nodup_flatMap_preorder (fuel : Nat) (p : ν) :
    ((below p).flatMap (preorder below fuel)).Nodup :=
  (nodup_cons.mp (h.nodup_preorder (fuel + 1) p)).2

end Treelike

theorem preorder_sublist (h : ∀ p, fewer p <+ below p) (fuel : Nat) (node : ν) :
    preorder fewer fuel node <+ preorder below fuel node := by
  induction fuel generalizing node with
  | zero => exact .refl _
  | succ fuel ih =>
    exact (((h node).flatMap _).trans (Sublist.flatMap_right _ fun c _ => ih c)).cons_cons node

end Treelike

section Climbs

inductive Climbs (up : ν → Option ν) (sought : ν → Prop) : ν → List ν → ν → Prop
  | found {x : ν} (hx : sought x) : Climbs up sought x [x] x
  | top {x : ν} (hx : ¬ sought x) (hp : up x = none) : Climbs up sought x [x] x
  | parent {x p last : ν} {seen : List ν} (hx : ¬ sought x) (hp : up x = some p)
      (hup : Climbs up sought p seen last) : Climbs up sought x (x :: seen) last

variable {up : ν → Option ν} {sought : ν → Prop} {x y last : ν} {seen : List ν}

theorem exists_climbs (hw : WellFounded fun p c => up c = some p) (sought : ν → Prop) (x : ν) :
    ∃ seen last, Climbs up sought x seen last := by
  induction x using hw.induction with
  | _ x ih =>
    by_cases hx : sought x
    · exact ⟨_, _, .found hx⟩
    · cases hp : up x with
      | none => exact ⟨_, _, .top hx hp⟩
      | some p =>
        obtain ⟨seen, last, hup⟩ := ih p hp
        exact ⟨_, _, .parent hx hp hup⟩

theorem Climbs.above (h : Climbs up sought x seen last) (hy : y ∈ seen) :
    ReflTransGen (fun c p => up c = some p) x y := by
  induction h with
  | found | top =>
    rw [mem_singleton.mp hy]
  | parent _ hp _ ih =>
    rcases mem_cons.mp hy with rfl | hy
    · exact .refl
    · exact .head hp (ih hy)

theorem Climbs.last_mem (h : Climbs up sought x seen last) : last ∈ seen := by
  induction h with
  | found | top => exact mem_singleton_self _
  | parent _ _ _ ih => exact mem_cons_of_mem _ ih

theorem Climbs.stops (h : Climbs up sought x seen last) : sought last ∨ up last = none := by
  induction h with
  | found hx => exact .inl hx
  | top _ hp => exact .inr hp
  | parent _ _ _ ih => exact ih

theorem Climbs.nodup (hw : WellFounded fun p c => up c = some p)
    (h : Climbs up sought x seen last) : seen.Nodup := by
  have hacyclic : ∀ x, ¬ TransGen (fun c p => up c = some p) x x := by
    intro x hx
    exact (WellFounded.transGen hw).irrefl.irrefl x (transGen_swap.mpr hx)
  induction h with
  | found | top => exact nodup_singleton _
  | parent _ hp hup ih =>
    exact nodup_cons.mpr ⟨fun hm => hacyclic _ (.head' hp (hup.above hm)), ih⟩

theorem Climbs.last_eq_iff (h : Climbs up (· = y) x seen last) :
    last = y ↔ ReflTransGen (fun c p => up c = some p) x y := by
  constructor
  · rintro rfl
    exact h.above h.last_mem
  · intro hy
    induction h with
    | found hx => exact hx
    | top hx hp =>
      rcases hy.cases_head with he | ⟨q, hq, -⟩
      · exact he
      · exact absurd (hp.symm.trans hq) nofun
    | parent hx hp _ ih =>
      rcases hy.cases_head with he | ⟨q, hq, hqy⟩
      · exact absurd he hx
      · obtain rfl := Option.some.inj (hp.symm.trans hq)
        exact ih hqy

end Climbs

namespace Adapter

open Written

variable {a : Adapter ν} {rank : ν → Nat} {fuel : Nat} {nodes : List ν}

/-- Nodes that are written one after the other, each with what is below it, as far as the end of
the one that is looked for: the nodes with a start tag, the text so far, and whether it stops
there. -/
inductive Emits (a : Adapter ν) (sought : Option ν) : List ν → List ν → String → Bool → Prop
  | nil : Emits a sought [] [] "" false
  | voidLast {x : ν} {xs : List ν} (hv : isVoid (a.tagName x) = true) (hx : sought = some x) :
      Emits a sought (x :: xs) [x] (a.writeStart x) true
  | void {x : ν} {xs seen : List ν} {s : String} {stops : Bool}
      (hv : isVoid (a.tagName x) = true) (hx : sought ≠ some x)
      (hon : Emits a sought xs seen s stops) :
      Emits a sought (x :: xs) (x :: seen) (a.writeStart x ++ s) stops
  | inside {x : ν} {xs seen : List ν} {s : String} (hv : isVoid (a.tagName x) = false)
      (hin : Emits a sought (a.children x) seen s true) :
      Emits a sought (x :: xs) (x :: seen)
        (a.writeStart x ++ text (a.tagName x) (a.textContent x) ++ s) true
  | last {x : ν} {xs seen : List ν} {s : String} (hv : isVoid (a.tagName x) = false)
      (hin : Emits a sought (a.children x) seen s false) (hx : sought = some x) :
      Emits a sought (x :: xs) (x :: seen)
        (a.writeStart x ++ text (a.tagName x) (a.textContent x) ++ s ++ endTag (a.tagName x)) true
  | on {x : ν} {xs seen seen' : List ν} {s s' : String} {stops : Bool}
      (hv : isVoid (a.tagName x) = false) (hin : Emits a sought (a.children x) seen s false)
      (hx : sought ≠ some x) (hon : Emits a sought xs seen' s' stops) :
      Emits a sought (x :: xs) (x :: (seen ++ seen'))
        (a.writeStart x ++ text (a.tagName x) (a.textContent x) ++ s ++ endTag (a.tagName x) ++ s')
        stops

theorem emits_write (hr : ∀ {p c}, c ∈ a.children p → rank c < rank p)
    (hf : ∀ x ∈ nodes, rank x < fuel) :
    Emits a none nodes (nodes.flatMap (preorder a.writtenChildren fuel))
      ("".intercalate (nodes.map (a.write fuel))) false := by
  induction fuel generalizing nodes with
  | zero =>
    cases nodes with
    | nil => exact .nil
    | cons x nodes => exact absurd (hf x mem_cons_self) (Nat.not_lt_zero _)
  | succ fuel ihf =>
    induction nodes with
    | nil => exact .nil
    | cons x nodes ih =>
      obtain ⟨hx, hnodes⟩ := forall_mem_cons.mp hf
      have hin := ihf fun c hc => Nat.lt_of_lt_of_le (hr hc) (Nat.le_of_lt_succ hx)
      have hsought : none ≠ some x := (Option.some_ne_none x).symm
      rw [flatMap_cons, map_cons, joined_cons, preorder]
      cases hv : isVoid (a.tagName x) with
      | true =>
        rw [writtenChildren_of_isVoid hv, write_of_isVoid hv]
        exact .void hv hsought (ih hnodes)
      | false =>
        rw [writtenChildren_of_not_isVoid hv, write_of_not_isVoid hv]
        exact .on hv hin hsought (ih hnodes)

/-- The markup of an element is written to its end. -/
theorem exists_emits_outerHtml (h : Treelike a.children rank) (hr : ∀ x, rank x ≤ a.height)
    (x : ν) : ∃ seen,
      a.Emits none ([x].filter a.isElement) seen (a.outerHtml x) false ∧ seen.Nodup := by
  rw [outerHtml, filter_singleton]
  cases a.isElement x with
  | false => exact ⟨[], .nil, nodup_nil⟩
  | true =>
    have hlow : ∀ y ∈ [x], rank y < a.height + 1 := fun y _ => Nat.lt_succ_of_le (hr y)
    refine ⟨preorder a.writtenChildren (a.height + 1) x, ?_,
      (h.of_sublist writtenChildren_sublist).nodup_preorder _ x⟩
    simpa using emits_write h.rank_lt hlow

section Seek

variable [DecidableEq ν] {target x : ν} {s s' : String} {pos : Nat} {seen seen' : List ν}
  {stops stops' : Bool}

def reached (s : String) (stops : Bool) (pos : Nat) : Except Nat Nat :=
  if stops then .error (pos + s.utf8ByteSize) else .ok (pos + s.utf8ByteSize)

theorem reached_append (s s' : String) (stops : Bool) (pos : Nat) :
    reached (s ++ s') stops pos = reached s' stops (pos + s.utf8ByteSize) := by
  rw [reached, reached, String.utf8ByteSize_append, Nat.add_assoc]

theorem seek_of_isVoid (hv : isVoid (a.tagName x) = true) (target : ν) (fuel pos : Nat) :
    a.seek target (fuel + 1) x pos = reached (a.writeStart x) (decide (x = target)) pos := by
  rw [seek_succ, seekBehind, if_pos hv, reached]
  by_cases he : x = target <;> simp [he, Except.bind]

theorem seek_of_passes (hv : isVoid (a.tagName x) = false)
    (hin : a.seekInside target fuel x pos = reached s false pos) :
    a.seek target (fuel + 1) x pos =
      reached (s ++ endTag (a.tagName x)) (decide (x = target)) pos := by
  rw [seek_succ, seekBehind, hv, if_neg Bool.false_ne_true, hin, reached_append, reached, reached]
  by_cases he : x = target <;> simp [he, Except.bind, Except.map]

structure Seeks (a : Adapter ν) (target : ν) (fuel : Nat) (nodes seen : List ν) (s : String)
    (stops : Bool) : Prop where
  emits : Emits a (some target) nodes seen s stops
  sublist : seen <+ nodes.flatMap (preorder a.writtenChildren fuel)
  foldlM_eq : ∀ pos,
    nodes.foldlM (fun pos x => a.seek target fuel x pos) pos = reached s stops pos

theorem seeks_nil (a : Adapter ν) (target : ν) (fuel : Nat) :
    a.Seeks target fuel [] [] "" false :=
  ⟨.nil, .refl _, fun _ => rfl⟩

theorem Seeks.void (hv : isVoid (a.tagName x) = true)
    (hon : a.Seeks target (fuel + 1) nodes seen s stops) :
    ∃ seen s stops, a.Seeks target (fuel + 1) (x :: nodes) seen s stops := by
  by_cases he : x = target
  · refine ⟨[x], a.writeStart x, true, .voidLast hv (congrArg some he.symm), ?_, fun pos => ?_⟩
    · exact sublist_append_left [x] _
    · rw [foldlM_cons, seek_of_isVoid hv, decide_eq_true he]
      rfl
  · have hne : some target ≠ some x := fun h => he (Option.some.inj h).symm
    refine ⟨x :: seen, a.writeStart x ++ s, stops, .void hv hne hon.emits, ?_, fun pos => ?_⟩
    · rw [flatMap_cons, preorder, writtenChildren_of_isVoid hv]
      exact hon.sublist.cons_cons x
    · rw [foldlM_cons, seek_of_isVoid hv, decide_eq_false he, reached_append]
      exact hon.foldlM_eq _

theorem Seeks.node (hv : isVoid (a.tagName x) = false)
    (hin : a.Seeks target fuel (a.children x) seen s stops)
    (hon : a.Seeks target (fuel + 1) nodes seen' s' stops') :
    ∃ seen s stops, a.Seeks target (fuel + 1) (x :: nodes) seen s stops := by
  have hinside : ∀ pos, a.seekInside target fuel x pos =
      reached (a.writeStart x ++ text (a.tagName x) (a.textContent x) ++ s) stops pos := by
    intro pos
    rw [seekInside, hin.foldlM_eq, String.append_assoc, reached_append, reached_append]
  have hall : x :: (seen ++ seen') <+
      (x :: nodes).flatMap (preorder a.writtenChildren (fuel + 1)) := by
    rw [flatMap_cons, preorder, writtenChildren_of_not_isVoid hv]
    exact (hin.sublist.append hon.sublist).cons_cons x
  have hfirst := ((sublist_append_left seen seen').cons_cons x).trans hall
  cases stops with
  | true =>
    refine ⟨x :: seen, _, true, .inside hv hin.emits, hfirst, fun pos => ?_⟩
    rw [foldlM_cons, seek_eq_error_of_inside hv (hinside pos)]
    rfl
  | false =>
    have hseek := fun pos => seek_of_passes hv (hinside pos)
    by_cases he : x = target
    · refine ⟨x :: seen, _, true, .last hv hin.emits (congrArg some he.symm), hfirst,
        fun pos => ?_⟩
      rw [foldlM_cons, hseek, decide_eq_true he]
      rfl
    · have hne : some target ≠ some x := fun h => he (Option.some.inj h).symm
      refine ⟨x :: (seen ++ seen'), _, stops', .on hv hin.emits hne hon.emits, hall, fun pos => ?_⟩
      rw [foldlM_cons, hseek, decide_eq_false he, reached_append _ s']
      exact hon.foldlM_eq _

theorem exists_seeks (hr : ∀ {p c}, c ∈ a.children p → rank c < rank p)
    (hf : ∀ x ∈ nodes, rank x < fuel) (target : ν) :
    ∃ seen s stops, a.Seeks target fuel nodes seen s stops := by
  induction fuel generalizing nodes with
  | zero =>
    cases nodes with
    | nil => exact ⟨_, _, _, seeks_nil a target 0⟩
    | cons x nodes => exact absurd (hf x mem_cons_self) (Nat.not_lt_zero _)
  | succ fuel ihf =>
    induction nodes with
    | nil => exact ⟨_, _, _, seeks_nil a target (fuel + 1)⟩
    | cons x nodes ih =>
      obtain ⟨hx, hnodes⟩ := forall_mem_cons.mp hf
      obtain ⟨seen', s', stops', hon⟩ := ih hnodes
      cases hv : isVoid (a.tagName x) with
      | true => exact hon.void hv
      | false =>
        have hlow : ∀ c ∈ a.children x, rank c < fuel :=
          fun c hc => Nat.lt_of_lt_of_le (hr hc) (Nat.le_of_lt_succ hx)
        obtain ⟨seen, s, stops, hin⟩ := ihf hlow
        exact hin.node hv hon

/-- The markup of a tree is written as far as the end of an element. -/
theorem exists_emits_endOffset? (h : Treelike a.children rank) (hr : ∀ x, rank x ≤ a.height)
    (x : ν) : ∃ seen s stops,
      a.Emits (some x) (([x].filter a.isElement).map a.root) seen s stops ∧ seen.Nodup ∧
        a.endOffset? x = if stops then some s.utf8ByteSize else none := by
  rw [endOffset?, filter_singleton]
  cases a.isElement x with
  | false => exact ⟨[], "", false, .nil, nodup_nil, rfl⟩
  | true =>
    have hlow : ∀ y ∈ [a.root x], rank y < a.height + 1 := fun y _ => Nat.lt_succ_of_le (hr y)
    obtain ⟨seen, s, stops, hs⟩ := exists_seeks h.rank_lt hlow x
    refine ⟨seen, s, stops, hs.emits, ?_, ?_⟩
    · have hsub := hs.sublist
      rw [flatMap_singleton] at hsub
      exact ((h.of_sublist writtenChildren_sublist).nodup_preorder _ _).sublist hsub
    · have hseek : a.seek x (a.height + 1) (a.root x) 0 = reached s stops 0 := by
        simpa only [foldlM_cons, foldlM_nil, bind_pure] using hs.foldlM_eq 0
      rw [if_pos rfl, hseek, reached, Nat.zero_add]
      cases stops <;> rfl

end Seek

end Adapter

namespace Check.Head

variable {a : Adapter ν} {x : ν} {rank : ν → Nat}

/-- The loop over a stack: the nodes that are taken off, and those of their tags that have no place
in a head. -/
inductive Picks (a : Adapter ν) : List ν → List ν → List String → Prop
  | nil : Picks a [] [] []
  | template {x : ν} {stack seen : List ν} {tags : List String} (hx : a.tagName x = "template")
      (hon : Picks a stack seen tags) : Picks a (x :: stack) (x :: seen) tags
  | node {x : ν} {stack seen : List ν} {tags : List String} (hx : a.tagName x ≠ "template")
      (hon : Picks a (push stack (a.children x).reverse) seen tags) :
      Picks a (x :: stack) (x :: seen) ((if isLegal a x then [] else [a.tagName x]) ++ tags)

inductive Inspects (a : Adapter ν) : ν → List ν → List String → Prop
  | template {x : ν} (hx : a.tagName x = "template") : Inspects a x [] []
  | node {x : ν} {seen : List ν} {tags : List String} (hx : a.tagName x ≠ "template")
      (h : Picks a (push [] (a.children x).reverse) seen tags) : Inspects a x seen tags

theorem push_reverse (stack nodes : List ν) : push stack nodes.reverse = nodes ++ stack := by
  rw [push_eq, reverse_reverse]

theorem picks_walk {stack : List ν} (h : ∀ x ∈ stack, a.IsFinite x) :
    Picks a stack (stack.flatMap (walk a)) (illegalTags a (stack.flatMap (walk a))) := by
  induction hn : (stack.flatMap (walk a)).length using Nat.strong_induction_on
    generalizing stack with
  | _ n ih =>
    cases stack with
    | nil => exact .nil
    | cons x stack =>
      obtain ⟨hx, hstack⟩ := forall_mem_cons.mp h
      have hnext : ∀ y ∈ inner a x ++ stack, a.IsFinite y := by
        rw [forall_mem_append]
        exact ⟨fun c hc => hx.of_mem (inner_subset a x hc), hstack⟩
      rw [flatMap_cons, walk_eq hx, cons_append, ← flatMap_append] at hn ⊢
      have hon := ih _ (by rw [← hn]; exact Nat.lt_succ_self _) hnext rfl
      rw [illegalTags_cons]
      by_cases ht : a.tagName x = "template"
      · have hlegal : isLegal a x := by
          rw [isLegal, ht]
          decide
        rw [inner, if_pos ht, nil_append] at hon ⊢
        rw [if_pos hlegal]
        exact .template ht hon
      · rw [inner, if_neg ht] at hon ⊢
        exact .node ht (by rwa [push_reverse])

def inspected (a : Adapter ν) (x : ν) : List ν := (inner a x).flatMap (walk a)

theorem inspects_illegalBelow (h : a.IsFinite x) :
    Inspects a x (inspected a x) (illegalBelow a (a.height + 1) x) := by
  rw [illegalBelow_eq h]
  by_cases ht : a.tagName x = "template"
  · rw [inspected, inner, if_pos ht]
    exact .template ht
  · refine .node ht ?_
    rw [inspected, inner, if_neg ht, push_reverse, append_nil]
    exact picks_walk fun _ => h.of_mem

theorem nodup_inspected (h : Treelike a.children rank) (hr : ∀ x, rank x ≤ a.height) (head : ν) :
    ((a.children head).flatMap (inspected a)).Nodup := by
  have hinner : ∀ p, inner a p <+ a.children p := by
    intro p
    rw [inner]
    split
    · exact nil_sublist _
    · exact .refl _
  have hfinite : ∀ x, a.IsFinite x := fun x => ⟨rank, hr x, fun _ hc => h.rank_lt hc⟩
  refine (h.nodup_flatMap_preorder (a.height + 1) head).sublist (Sublist.flatMap_right _ ?_)
  intro x _
  refine Sublist.trans ?_ (preorder_sublist hinner (a.height + 1) x)
  rw [← walk, walk_eq (hfinite x)]
  exact sublist_cons_self x _

end Check.Head

section Bounds

variable {a : Adapter ν} {rank : ν → Nat} {n : Nat}

theorem similar_self (hr : ∀ {p c}, c ∈ a.children p → rank c < rank p) :
    Similar a a (· = ·) rank where
  isElement := fun h => h ▸ rfl
  tagName := fun h => h ▸ rfl
  attr := fun h _ => h ▸ rfl
  attrNames := fun h => h ▸ rfl
  textContent := fun h => h ▸ rfl
  children := fun h => by
    rw [forall₂_eq_eq_eq, h]
  unique := ⟨fun _ _ _ hx hy => hx.trans hy.symm, fun _ _ _ hx hy => hx.symm.trans hy⟩
  rank_lt := fun _ hc => hr hc

/-- All walks fit in any bound that is not lower than what the adapter tells. -/
theorem Adapter.Ranked.fitsIn [DecidableEq ν] (h : a.Ranked rank)
    (hr : ∀ {p c}, c ∈ a.children p → rank c < rank p) (hn : a.height ≤ n) : a.FitsIn n where
  ascend := fun x =>
    top_unique (a.above_ascend n x) (h.parent_ascend (hn.trans (Nat.le_add_left _ _)))
      (a.above_ascend _ x) (h.parent_root x)
  seek := fun _ x pos =>
    (similar_self hr).seek rfl rfl (Nat.lt_succ_of_le ((h.rank_le x).trans hn))
      (Nat.lt_succ_of_le (h.rank_le x)) pos
  illegalBelow := fun x =>
    (similar_self hr).illegalBelow rfl (Nat.lt_succ_of_le ((h.rank_le x).trans hn))
      (Nat.lt_succ_of_le (h.rank_le x))

end Bounds

end HeadAudit

import HeadAudit.Live.OfMarkup
import HeadAudit.Proofs.Live.Insertion

namespace HeadAudit.Live.Tree

open NodeId Relation

mutual

def kept : Markup.Node → Nat
  | .doctype _ => 0
  | .text s => if Text.blank s then 0 else 1
  | .comment _ => 1
  | .element _ _ children _ => keptAll children + 1

def keptAll : List Markup.Node → Nat
  | [] => 0
  | n :: ns => kept n + keptAll ns

end

mutual

/-- The node `id` is a copy of a parsed node, made with everything below it from `lo` on. -/
def Copied (t : Tree) (lo : Nat) : Markup.Node → NodeId → Prop
  | .doctype _, _ => False
  | .text s, id => lo ≤ id.index ∧ t.content? id = some (.text s) ∧ t.children id = []
  | .comment s, id => lo ≤ id.index ∧ t.content? id = some (.comment s) ∧ t.children id = []
  | .element tag attrs children _, id =>
    lo ≤ id.index ∧
      t.content? id = some (.element (Ascii.lower tag) (Attributes.setAll [] attrs)) ∧
        CopiedAll t lo children (t.children id)

def CopiedAll (t : Tree) (lo : Nat) : List Markup.Node → List NodeId → Prop
  | [], ids => ids = []
  | n :: ns, ids =>
    if kept n = 0 then CopiedAll t lo ns ids
    else ∃ id rest, ids = id :: rest ∧ Copied t lo n id ∧ CopiedAll t lo ns rest

end

variable {t u v : Tree} {p d id : NodeId} {ids ids' : List NodeId} {lo lo' : Nat}

/-- A tree that has got more children under one node, and is as it was otherwise. -/
structure Grown (t u : Tree) (p : NodeId) (ids : List NodeId) : Prop where
  forest : u.Forest u.children
  size_le : t.size ≤ u.size
  content : ∀ {d}, t.contains d → u.content? d = t.content? d
  children : ∀ {d}, t.contains d → d ≠ p → u.children d = t.children d
  added : u.children p = t.children p ++ ids

theorem Grown.contains (h : t.Grown u p ids) (hd : t.contains d) : u.contains d :=
  contains_of_size_le h.size_le hd

theorem Grown.refl (h : t.Forest t.children) (p : NodeId) : t.Grown t p [] where
  forest := h
  size_le := le_refl _
  content := fun _ => rfl
  children := fun _ _ => rfl
  added := (List.append_nil _).symm

theorem Grown.trans (h : t.Grown u p ids) (h' : u.Grown v p ids') : t.Grown v p (ids ++ ids') where
  forest := h'.forest
  size_le := h.size_le.trans h'.size_le
  content := fun hd => (h'.content (h.contains hd)).trans (h.content hd)
  children := fun hd hp => (h'.children (h.contains hd) hp).trans (h.children hd hp)
  added := by rw [h'.added, h.added, List.append_assoc]

theorem Grown.below (h : t.Grown u p [id]) (hp : t.contains p) (hid : t.contains id = false)
    (h' : u.Grown v id ids) : t.Grown v p [id] where
  forest := h'.forest
  size_le := h.size_le.trans h'.size_le
  content := fun hd => (h'.content (h.contains hd)).trans (h.content hd)
  children := fun {d} hd hne => by
    rw [h'.children (h.contains hd) (ne_of_contains hd hid), h.children hd hne]
  added := by rw [h'.children (h.contains hp) (ne_of_contains hp hid), h.added]

theorem exists_grown (h : t.Forest t.children) (hp : t.contains p)
    (hs : t.size < NodeId.absent.index) (content : Content) :
    ∃ u, (t.create content).1.appendChild p ⟨t.size⟩ = .ok u ∧ t.Grown u p [⟨t.size⟩] ∧
      u.size = t.size + 1 ∧ u.content? ⟨t.size⟩ = some content ∧ u.children ⟨t.size⟩ = [] := by
  obtain ⟨u, hu, hf, hcontent, hsize⟩ := h.exists_append hp hs content
  have hfresh : t.contains ⟨t.size⟩ = false := not_contains_fresh
  have hkids := fun q => hf.linked.children_eq q
  refine ⟨u, hu, ⟨hf.children, ?_, ?_, ?_, ?_⟩, hsize, ?_, ?_⟩
  · omega
  · intro d hd
    rw [hcontent, if_neg (ne_of_contains hd hfresh)]
  · intro d hd hdp
    rw [hkids, Function.update_of_ne hdp]
  · rw [hkids, Function.update_self]
  · rw [hcontent, if_pos rfl]
  · rw [hkids, Function.update_of_ne (ne_of_contains hp hfresh).symm,
      h.linked.kids_of_not_contains hfresh]

theorem CopiedAll.append {ns ms : List Markup.Node} (h : t.CopiedAll lo ns ids)
    (h' : t.CopiedAll lo ms ids') : t.CopiedAll lo (ns ++ ms) (ids ++ ids') := by
  induction ns generalizing ids with
  | nil =>
    rw [CopiedAll] at h
    rw [h]
    exact h'
  | cons n ns ih =>
    rw [CopiedAll] at h
    rw [List.cons_append, CopiedAll]
    split at h
    · next hk =>
      rw [if_pos hk]
      exact ih h
    · next hk =>
      rw [if_neg hk]
      obtain ⟨id, rest, rfl, hn, hns⟩ := h
      exact ⟨id, rest ++ ids', rfl, hn, ih hns⟩

mutual

/-- A copy stays one as long as its own nodes stay as they are. -/
theorem Copied.frame (hf : ∀ id, lo ≤ id.index → (t.content? id).isSome →
      u.content? id = t.content? id ∧ u.children id = t.children id) (hlo : lo' ≤ lo)
    (n : Markup.Node) (id : NodeId) (h : t.Copied lo n id) : u.Copied lo' n id := by
  cases n with
  | doctype name =>
    rw [Copied] at h
    exact h.elim
  | text s =>
    rw [Copied] at h ⊢
    obtain ⟨hu, hk⟩ := hf id h.1 (by rw [h.2.1]; rfl)
    exact ⟨hlo.trans h.1, hu.trans h.2.1, hk.trans h.2.2⟩
  | comment s =>
    rw [Copied] at h ⊢
    obtain ⟨hu, hk⟩ := hf id h.1 (by rw [h.2.1]; rfl)
    exact ⟨hlo.trans h.1, hu.trans h.2.1, hk.trans h.2.2⟩
  | element tag attrs children template =>
    rw [Copied] at h ⊢
    obtain ⟨hu, hk⟩ := hf id h.1 (by rw [h.2.1]; rfl)
    rw [hk]
    exact ⟨hlo.trans h.1, hu.trans h.2.1, CopiedAll.frame hf hlo children _ h.2.2⟩

theorem CopiedAll.frame (hf : ∀ id, lo ≤ id.index → (t.content? id).isSome →
      u.content? id = t.content? id ∧ u.children id = t.children id) (hlo : lo' ≤ lo)
    (ns : List Markup.Node) (ids : List NodeId) (h : t.CopiedAll lo ns ids) :
    u.CopiedAll lo' ns ids := by
  cases ns with
  | nil =>
    rw [CopiedAll] at h ⊢
    exact h
  | cons n ns =>
    rw [CopiedAll] at h ⊢
    split at h
    · next hk =>
      rw [if_pos hk]
      exact CopiedAll.frame hf hlo ns ids h
    · next hk =>
      rw [if_neg hk]
      obtain ⟨id, rest, hids, hn, hns⟩ := h
      exact ⟨id, rest, hids, Copied.frame hf hlo n id hn, CopiedAll.frame hf hlo ns rest hns⟩

end

/-- A tree that grows elsewhere leaves a copy alone. -/
theorem CopiedAll.grown {ns : List Markup.Node} (h : t.CopiedAll lo ns ids) (hp : p.index < lo)
    (hg : t.Grown u p ids') : u.CopiedAll lo ns ids := by
  refine CopiedAll.frame (fun id hid hs => ?_) (le_refl lo) ns ids h
  have hc : t.contains id := by
    rw [content?, Option.isSome_map] at hs
    exact hs
  refine ⟨hg.content hc, hg.children hc fun he => ?_⟩
  rw [he] at hid
  omega

theorem copiedAll_singleton {n : Markup.Node} (hk : kept n ≠ 0) (h : t.Copied lo n id) :
    t.CopiedAll lo [n] [id] := by
  rw [CopiedAll, if_neg hk]
  exact ⟨id, [], rfl, h, by rw [CopiedAll]⟩

theorem copiedAll_skip {n : Markup.Node} (hk : kept n = 0) : t.CopiedAll lo [n] [] := by
  rw [CopiedAll, if_pos hk, CopiedAll]

theorem copyNode_element (t : Tree) (p : NodeId) (tag : String) (attrs : List (String × String))
    (children template : List Markup.Node) :
    t.copyNode p (.element tag attrs children template) =
      ((t.create (.element (Ascii.lower tag) (Attributes.setAll [] attrs))).1.appendChild p
        ⟨t.size⟩).bind fun u => u.copyNodes ⟨t.size⟩ children := by
  rw [copyNode]
  rfl

theorem copyNodes_cons (t : Tree) (p : NodeId) (n : Markup.Node) (ns : List Markup.Node) :
    t.copyNodes p (n :: ns) = (t.copyNode p n).bind fun u => u.copyNodes p ns := by
  rw [copyNodes]
  rfl

mutual

/-- Copying a node succeeds as long as there are ids, and makes a copy. -/
theorem copyNode_spec (n : Markup.Node) (t : Tree) (p : NodeId) (h : t.Forest t.children)
    (hp : t.contains p) (hs : t.size + kept n ≤ NodeId.absent.index) :
    ∃ u ids, t.copyNode p n = .ok u ∧ t.Grown u p ids ∧ u.size = t.size + kept n ∧
      u.CopiedAll t.size [n] ids := by
  cases n with
  | doctype name =>
    exact ⟨t, [], by rw [copyNode], .refl h p, by rw [kept]; rfl, copiedAll_skip (by rw [kept])⟩
  | text s =>
    by_cases hb : Text.blank s
    · have hk : kept (.text s) = 0 := by rw [kept, if_pos hb]
      exact ⟨t, [], by rw [copyNode, if_pos hb], .refl h p, by rw [hk]; rfl, copiedAll_skip hk⟩
    · have hk : kept (.text s) = 1 := by rw [kept, if_neg hb]
      obtain ⟨u, hu, hg, hsize, hc, hkids⟩ := exists_grown h hp (by omega) (.text s)
      refine ⟨u, [⟨t.size⟩], ?_, hg, by rw [hk, hsize], copiedAll_singleton (by omega) ?_⟩
      · rw [copyNode, if_neg hb]
        exact hu
      · rw [Copied]
        exact ⟨le_refl _, hc, hkids⟩
  | comment s =>
    have hk : kept (.comment s) = 1 := by rw [kept]
    obtain ⟨u, hu, hg, hsize, hc, hkids⟩ := exists_grown h hp (by omega) (.comment s)
    refine ⟨u, [⟨t.size⟩], ?_, hg, by rw [hk, hsize], copiedAll_singleton (by omega) ?_⟩
    · rw [copyNode]
      exact hu
    · rw [Copied]
      exact ⟨le_refl _, hc, hkids⟩
  | element tag attrs children template =>
    have hk : kept (.element tag attrs children template) = keptAll children + 1 := by rw [kept]
    obtain ⟨u, hu, hg, hsize, hc, hkids⟩ := exists_grown h hp (by omega)
      (.element (Ascii.lower tag) (Attributes.setAll [] attrs))
    have hid : u.contains ⟨t.size⟩ := by
      rw [contains_iff_lt, hsize]
      exact Nat.lt_succ_self _
    -- The children grow under the new element, which stands under `p` by now.
    obtain ⟨v, ids, hv, hg', hsize', hcopied⟩ :=
      copyNodes_spec children u ⟨t.size⟩ hg.forest hid (by omega)
    refine ⟨v, [⟨t.size⟩], ?_, hg.below hp not_contains_fresh hg', by omega,
      copiedAll_singleton (by omega) ?_⟩
    · rw [copyNode_element, hu]
      exact hv
    · rw [Copied, hg'.added, hkids]
      refine ⟨le_refl _, (hg'.content hid).trans hc, ?_⟩
      exact CopiedAll.frame (fun _ _ _ => ⟨rfl, rfl⟩) (by omega) children ids hcopied

theorem copyNodes_spec (ns : List Markup.Node) (t : Tree) (p : NodeId) (h : t.Forest t.children)
    (hp : t.contains p) (hs : t.size + keptAll ns ≤ NodeId.absent.index) :
    ∃ u ids, t.copyNodes p ns = .ok u ∧ t.Grown u p ids ∧ u.size = t.size + keptAll ns ∧
      u.CopiedAll t.size ns ids := by
  cases ns with
  | nil =>
    exact ⟨t, [], by rw [copyNodes], .refl h p, by rw [keptAll]; rfl, by rw [CopiedAll]⟩
  | cons n ns =>
    have hk : keptAll (n :: ns) = kept n + keptAll ns := by rw [keptAll]
    obtain ⟨u, ids, hu, hg, hsize, hcopied⟩ := copyNode_spec n t p h hp (by omega)
    obtain ⟨v, ids', hv, hg', hsize', hcopied'⟩ :=
      copyNodes_spec ns u p hg.forest (hg.contains hp) (by omega)
    refine ⟨v, ids ++ ids', ?_, hg.trans hg', by omega, ?_⟩
    · rw [copyNodes_cons, hu]
      exact hv
    · have hlt := (t.contains_iff_lt p).mp hp
      exact (hcopied.grown hlt hg').append
        (CopiedAll.frame (fun _ _ _ => ⟨rfl, rfl⟩) hg.size_le ns ids' hcopied')

end

end HeadAudit.Live.Tree

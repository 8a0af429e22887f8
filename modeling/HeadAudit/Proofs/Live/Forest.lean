import HeadAudit.Proofs.Live.Ancestors

namespace HeadAudit.Live.Tree

open NodeId Relation

/-- A tree whose nodes have these lists of children. -/
structure Forest (t : Tree) (kids : NodeId → List NodeId) : Prop where
  linked : t.Linked kids
  grounded : t.Grounded
  contains_root : t.contains .root
  root : t.parent? .root = none

variable {t : Tree} {kids : NodeId → List NodeId} {p q c d id : NodeId}

section Create

variable {content : Content}

theorem get?_create : (t.create content).1.get? d =
    if d = ⟨t.size⟩ then some { content } else t.get? d := by
  cases d with
  | mk i => simp [create, get?, Array.getElem?_push, size]

@[simp] theorem size_create : (t.create content).1.size = t.size + 1 := by
  simp [create, size]

theorem not_contains_fresh : t.contains ⟨t.size⟩ = false := by
  rw [← Bool.not_eq_true, contains_iff_lt]
  simp

theorem ne_of_contains (hd : t.contains d) (hid : t.contains id = false) : d ≠ id := by
  rintro rfl
  rw [hid] at hd
  exact Bool.false_ne_true hd

theorem contains_create : (t.create content).1.contains d = (d == ⟨t.size⟩ || t.contains d) := by
  rw [contains, get?_create]
  by_cases hd : d = ⟨t.size⟩ <;> simp [hd, contains]

theorem parent?_create : (t.create content).1.parent? d = t.parent? d := by
  have hn : t.get? ⟨t.size⟩ = none := (t.contains_eq_false_iff _).mp not_contains_fresh
  rw [parent?, get?_create]
  by_cases hd : d = ⟨t.size⟩
  · simp [hd, parent?, hn]
  · simp [hd, parent?]

theorem above_of_create (h : ReflTransGen (t.create content).1.Under d p) :
    ReflTransGen t.Under d p :=
  ReflTransGen.mono (fun _ _ hu => by rwa [Under, parent?_create] at hu) d p h

theorem content?_create : (t.create content).1.content? d =
    if d = ⟨t.size⟩ then some content else t.content? d := by
  rw [content?, get?_create]
  split <;> rfl

theorem Forest.create (h : t.Forest kids) (hs : t.size < NodeId.absent.index) :
    (t.create content).1.Forest kids := by
  have hl := h.linked
  have hfresh : t.contains ⟨t.size⟩ = false := not_contains_fresh
  have hkeep : ∀ {x}, x ≠ ⟨t.size⟩ → (t.create content).1.get? x = t.get? x := fun hx => by
    rw [get?_create, if_neg hx]
  have hne : NodeId.absent ≠ ⟨t.size⟩ := by
    intro he
    rw [he] at hs
    exact lt_irrefl _ hs
  -- The new node is in no list of children, so it is beside no cut of them.
  have hold : ∀ {p front back}, kids p = front ++ back →
      lastOf front ≠ ⟨t.size⟩ ∧ firstOf back ≠ ⟨t.size⟩ := fun {p front back} hk => by
    apply ends_ne hne.symm
    intro hm
    have := hl.contains_of_mem (hk ▸ hm)
    simp [hfresh] at this
  constructor
  case linked =>
    constructor
    case absent => rw [hkeep hne, hl.absent]
    case mem_iff =>
      intro p c
      rw [parent?_create, hl.mem_iff]
    case contains_parent =>
      intro p c hc
      rw [parent?_create] at hc
      rw [contains_create, hl.contains_parent hc, Bool.or_true]
    case nodup => exact hl.nodup
    case after =>
      intro p front back hp hk
      -- The new node has an empty list, and in all other lists the links are the old ones.
      by_cases hpn : p = ⟨t.size⟩
      · subst hpn
        rw [hl.kids_of_not_contains hfresh, eq_comm, List.append_eq_nil_iff] at hk
        obtain ⟨rfl, rfl⟩ := hk
        simp [Tree.after, hkeep hne, hl.absent, get?_create]
      · rw [contains_create] at hp
        have hp : t.contains p := by simpa [hpn] using hp
        rw [← hl.after hp hk, Tree.after, Tree.after, hkeep (hold hk).1, hkeep hpn]
    case before =>
      intro p front back hp hk
      by_cases hpn : p = ⟨t.size⟩
      · subst hpn
        rw [hl.kids_of_not_contains hfresh, eq_comm, List.append_eq_nil_iff] at hk
        obtain ⟨rfl, rfl⟩ := hk
        simp [Tree.before, hkeep hne, hl.absent, get?_create]
      · rw [contains_create] at hp
        have hp : t.contains p := by simpa [hpn] using hp
        rw [← hl.before hp hk, Tree.before, Tree.before, hkeep (hold hk).2, hkeep hpn]
    case loose =>
      intro d q hd hn
      by_cases hdn : d = ⟨t.size⟩
      · simp [Tree.after, Tree.before, get?_create, hdn]
      · rw [contains_create] at hd
        have hd : t.contains d := by simpa [hdn] using hd
        rw [parent?_create] at hn
        obtain ⟨n, hn'⟩ := (t.contains_iff d).mp hd
        have := hl.loose q hd hn
        simpa [Tree.after, Tree.before, hkeep hdn, hn'] using this
  case grounded => exact h.grounded.of_under fun hu => by rwa [Under, parent?_create] at hu
  case contains_root => rw [contains_create, h.contains_root, Bool.or_true]
  case root => rw [parent?_create, h.root]

end Create

theorem Forest.detach (h : t.Forest kids) :
    (t.detach c).Forest fun p => (kids p).erase c where
  linked := h.linked.detach
  grounded := h.grounded.of_under under_of_detach
  contains_root := by rw [contains_detach, h.contains_root]
  root := by
    rw [parent?_detach, h.root]
    split <;> rfl

theorem Forest.not_above_of_mem (h : t.Forest kids) (hc : c ∈ kids p) :
    c ≠ .root ∧ ¬ ReflTransGen t.Under p c := by
  have hp : t.Under c p := h.linked.mem_iff.mp hc
  constructor
  · rintro rfl
    rw [Under, h.root] at hp
    cases hp
  · exact fun hup => h.grounded.irrefl c (.head' hp hup)

/-- When a node may go under another one, before a reference or at the end. -/
theorem Forest.insertError?_eq_none_iff (h : t.Forest kids) {reference : Option NodeId} :
    t.insertError? p c reference = none ↔
      t.contains p ∧ t.contains c ∧ c ≠ .root ∧ ¬ ReflTransGen t.Under p c ∧
        ∀ r, reference = some r → t.parent? r = some p := by
  rw [← h.linked.isInclusiveAncestor_iff h.grounded]
  unfold insertError?
  by_cases hp : t.contains p
  case neg => simp [hp]
  by_cases hc : t.contains c
  case neg => simp [hp, hc]
  by_cases hr : c = .root
  case pos => simp [hp, hr, h.contains_root]
  by_cases ha : t.isInclusiveAncestor c p
  case pos => simp [hp, hc, ha]
  have hpa := h.linked.ne_absent hp
  cases reference with
  | none => simp [hp, hc, hr, ha]
  | some r =>
    cases hg : t.get? r with
    | none => simp [hp, hc, hr, ha, hg, parent?]
    | some n =>
      by_cases hn : n.parent = p <;> simp [hp, hc, hr, ha, hg, hn, parent?, hpa]

/-- A free node that is put into a list of children under a node that it is not above. -/
theorem Forest.splice (h : t.Forest kids) (hp : t.contains p) (hc : t.contains c)
    (hroot : c ≠ .root) (hfree : t.parent? c = none) (hno : ¬ ReflTransGen t.Under p c)
    {front back : List NodeId} (hk : kids p = front ++ back) :
    (t.splice p (lastOf front) c (firstOf back)).Forest
      (Function.update kids p (front ++ c :: back)) where
  linked := h.linked.splice hp hc hfree hk
  grounded := h.grounded.of_moved (p := p) (c := c) (fun d q hu => by
    rw [Under, parent?_splice hc (h.linked.ne_absent hp)] at hu
    split at hu
    · next hd => exact .inl ⟨hd, (Option.some.inj hu).symm⟩
    · exact .inr hu) hno
  contains_root := by rw [contains_splice, h.contains_root]
  root := by
    rw [parent?_splice hc (h.linked.ne_absent hp), if_neg (Ne.symm hroot), h.root]

def placedBefore (c : NodeId) (reference : Option NodeId) (ids : List NodeId) : List NodeId :=
  match reference with
  | none => ids ++ [c]
  | some r => ids.takeWhile (· ≠ r) ++ c :: ids.dropWhile (· ≠ r)

theorem exists_cut {reference : Option NodeId} {ids : List NodeId}
    (hr : ∀ r, reference = some r → r ∈ ids) :
    ∃ front back, ids = front ++ back ∧ reference = back.head? ∧
      placedBefore c reference ids = front ++ c :: back := by
  cases reference with
  | none => exact ⟨ids, [], by simp, rfl, rfl⟩
  | some r =>
    refine ⟨ids.takeWhile (· ≠ r), ids.dropWhile (· ≠ r),
      (List.takeWhile_append_dropWhile).symm, ?_, rfl⟩
    have hne : ids.dropWhile (· ≠ r) ≠ [] := by
      rw [Ne, List.dropWhile_eq_nil_iff]
      intro hall
      simpa using hall r (hr r rfl)
    have hhead : (ids.dropWhile (· ≠ r)).head hne = r := by
      simpa using List.head_dropWhile_not (· ≠ r) hne
    rw [List.head?_eq_some_head hne, hhead]

/-- An allowed insertion moves a node into the list of children of its new parent. -/
theorem Forest.attach (h : t.Forest kids) {reference : Option NodeId}
    (hok : t.insertError? p c reference = none) (hne : reference ≠ some c) :
    ((t.detach c).attach p c reference).Forest
      (Function.update (fun q => (kids q).erase c) p
        (placedBefore c reference ((kids p).erase c))) := by
  obtain ⟨hp, hc, hroot, hno, href⟩ := h.insertError?_eq_none_iff.mp hok
  have hr : ∀ r, reference = some r → r ∈ (kids p).erase c := by
    rintro r rfl
    rw [(h.linked.nodup p).mem_erase_iff, h.linked.mem_iff]
    exact ⟨fun he => hne (by rw [he]), href r rfl⟩
  obtain ⟨front, back, hk, rfl, hplaced⟩ := exists_cut (c := c) hr
  have hd := h.detach (c := c)
  have hpd : (t.detach c).contains p := by rwa [contains_detach]
  have hfree : (t.detach c).parent? c = none := by rw [parent?_detach, if_pos rfl]
  have hno' : ¬ ReflTransGen (t.detach c).Under p c := fun hup => hno (above_of_detach hup)
  rw [hd.linked.attach_eq hpd hk, hplaced]
  exact hd.splice hpd (by rwa [contains_detach]) hroot hfree hno' hk

theorem parent?_update {f : Node → Node} (hf : ∀ n, f n = { n with content := (f n).content })
    (d : NodeId) : (t.update c f).parent? d = t.parent? d := by
  rw [parent?, get?_update, parent?]
  split
  · rw [Option.map_map]
    congr 2
    funext n
    rw [Function.comp_apply, hf]
  · rfl

theorem Forest.update (h : t.Forest kids) {f : Node → Node}
    (hf : ∀ n, f n = { n with content := (f n).content }) : (t.update c f).Forest kids := by
  have hparent : ∀ d, (t.update c f).parent? d = t.parent? d := parent?_update hf
  have hafter : ∀ q d, (t.update c f).after q d = t.after q d ∧
      (t.update c f).before q d = t.before q d := fun q d => by
    by_cases hd : d = c
    · subst hd
      cases hn : t.get? d with
      | none =>
        have hu : t.update d f = t := t.update_eq_self d fun n hm => by simp [hn] at hm
        rw [hu]
        exact ⟨rfl, rfl⟩
      | some n =>
        rw [after_update_self _ _ _ hn, before_update_self _ _ _ hn, after_of_get? _ _ _ hn,
          before_of_get? _ _ _ hn, hf n]
        exact ⟨rfl, rfl⟩
    · exact ⟨after_update_of_ne _ _ _ _ (fun n => by rw [hf n]) hd,
        before_update_of_ne _ _ _ _ (fun n => by rw [hf n]) hd⟩
  have hl := h.linked
  constructor
  case linked =>
    constructor
    case absent => rw [← contains_eq_false_iff, contains_update, hl.not_contains_absent]
    case mem_iff =>
      intro p d
      rw [hparent, hl.mem_iff]
    case contains_parent =>
      intro p d hd
      rw [hparent] at hd
      rw [contains_update, hl.contains_parent hd]
    case nodup => exact hl.nodup
    case after =>
      intro p front back hp hk
      rw [(hafter p _).1]
      exact hl.after (by simpa using hp) hk
    case before =>
      intro p front back hp hk
      rw [(hafter p _).2]
      exact hl.before (by simpa using hp) hk
    case loose =>
      intro d q hd hn
      rw [hparent] at hn
      rw [(hafter q d).1, (hafter q d).2]
      exact hl.loose q (by simpa using hd) hn
  case grounded => exact h.grounded.of_under fun hu => by rwa [Under, hparent] at hu
  case contains_root => rw [contains_update, h.contains_root]
  case root => rw [hparent, h.root]

/-- The lists of children are those that the tree tells. -/
theorem Forest.children (h : t.Forest kids) : t.Forest t.children := by
  rwa [show t.children = kids from funext h.linked.children_eq]

/-- The same nodes, but for one parent that has these children now. -/
structure Regrouped (t u : Tree) (p : NodeId) (ids : List NodeId) : Prop where
  forest : u.Forest u.children
  size : u.size = t.size
  content? : ∀ d, u.content? d = t.content? d
  children : u.children = Function.update t.children p ids

section Regrouped

variable {u v : Tree} {ids more : List NodeId}

theorem Regrouped.trans (h : Regrouped t u p ids) (h' : Regrouped u v p more) :
    Regrouped t v p more where
  forest := h'.forest
  size := h'.size.trans h.size
  content? := fun d => (h'.content? d).trans (h.content? d)
  children := by rw [h'.children, h.children, Function.update_idem]

theorem Regrouped.children_of_ne (h : Regrouped t u p ids) (hq : q ≠ p) :
    u.children q = t.children q := by
  rw [h.children, Function.update_of_ne hq]

end Regrouped

end HeadAudit.Live.Tree

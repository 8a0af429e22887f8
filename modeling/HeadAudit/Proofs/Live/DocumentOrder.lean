import HeadAudit.Live.Document
import HeadAudit.Proofs.Live.Undo
import HeadAudit.Proofs.Live.Walks

namespace HeadAudit.Live.Tree

open List Relation

def Beside (t : Tree) (c d : NodeId) : Prop := t.next? c = some d

/-- `x` comes before `y` in document order. -/
inductive Precedes (t : Tree) (x y : NodeId) : Prop
  | above (hy : TransGen t.Under y x)
  | apart {c d : NodeId} (hx : ReflTransGen t.Under x c) (hcd : TransGen t.Beside c d)
      (hy : ReflTransGen t.Under y d)

structure Offers (t : Tree) (start : NodeId) (tag : String) (x : NodeId) : Prop where
  below : TransGen t.Under x start
  element : ∃ attrs, t.content? x = some (.element tag attrs)

structure Leads (t : Tree) (P : NodeId → Prop) (x : NodeId) : Prop where
  holds : P x
  precedes : ∀ y, P y → y ≠ x → t.Precedes x y

/-- An id that tells the first element with a tag below a node, or is absent if there is none. -/
def Tells (t : Tree) (start : NodeId) (tag : String) (id : NodeId) : Prop :=
  t.Leads (t.Offers start tag) id ∨ id = .absent ∧ ∀ x, ¬ t.Offers start tag x

/-- Searches find the first element in document order, and a document that takes over the tree has
its elements from there. -/
structure FindsFirst (t : Tree) : Prop where
  precedes_iff : ∀ start x y, TransGen t.Under x start → TransGen t.Under y start → x ≠ y →
    (t.Precedes x y ↔ ¬ t.Precedes y x)
  findElement_eq_none_iff : ∀ start tag,
    t.findElement start tag = none ↔ ∀ x, ¬ t.Offers start tag x
  findElement_eq_some_iff : ∀ start tag x,
    t.findElement start tag = some x ↔ t.Leads (t.Offers start tag) x
  html : ∀ key, t.Tells .root "html" (Document.ofTree key t).html
  head : ∀ key, t.Tells (Document.ofTree key t).html "head" (Document.ofTree key t).head
  body : ∀ key, t.Tells (Document.ofTree key t).html "body" (Document.ofTree key t).body

variable {t : Tree} {kids : NodeId → List NodeId} {tag : String} {start p c d x y : NodeId}
  {front back : List NodeId}

section Siblings

theorem Linked.isChain_beside (h : t.Linked kids) (hk : kids p = front ++ back) :
    back.IsChain t.Beside := by
  induction back generalizing front with
  | nil => exact .nil
  | cons c back ih =>
    have hcut : kids p = (front ++ [c]) ++ back := by simp [hk]
    exact isChain_cons.mpr ⟨fun d hd => (h.next?_eq hk).trans hd, ih hcut⟩

/-- Children come one after the other. -/
theorem Linked.pairwise_beside (h : t.Linked kids) (p : NodeId) :
    (kids p).Pairwise (TransGen t.Beside) :=
  ((h.isChain_beside (nil_append _).symm).imp fun _ _ => .single).pairwise

theorem contains_of_beside (h : t.Beside c d) : t.contains c := by
  rw [Beside, next?] at h
  cases hc : t.get? c with
  | none => simp [hc] at h
  | some n => exact (t.contains_iff c).mpr ⟨n, hc⟩

theorem Linked.exists_parent_of_beside (h : t.Linked kids) (hcd : t.Beside c d) :
    ∃ p, c ∈ kids p := by
  cases hp : t.parent? c with
  | some p => exact ⟨p, h.mem_iff.mpr hp⟩
  | none =>
    obtain ⟨n, hn⟩ := (t.contains_iff c).mp (contains_of_beside hcd)
    obtain ⟨-, -, hnext⟩ := h.links_of_loose hn hp
    have hnone : t.next? c = none := by simp [next?, hn, hnext]
    rw [Beside, hnone] at hcd
    cases hcd

theorem Linked.cut_of_beside (h : t.Linked kids) (hk : kids p = front ++ c :: back)
    (hcd : t.Beside c d) : ∃ rest, kids p = (front ++ [c]) ++ d :: rest := by
  obtain ⟨rest, rfl⟩ := head?_eq_some_iff.mp ((h.next?_eq hk).symm.trans hcd)
  exact ⟨rest, by simp [hk]⟩

theorem Linked.exists_cut_of_beside (h : t.Linked kids) (hcd : TransGen t.Beside c d) :
    ∃ p front back, kids p = front ++ d :: back ∧ c ∈ front := by
  induction hcd with
  | single hcd =>
    obtain ⟨p, hp⟩ := h.exists_parent_of_beside hcd
    obtain ⟨front, back, hk⟩ := append_of_mem hp
    obtain ⟨rest, hk⟩ := h.cut_of_beside hk hcd
    exact ⟨p, _, rest, hk, by simp⟩
  | tail _ hde ih =>
    obtain ⟨p, front, back, hk, hc⟩ := ih
    obtain ⟨rest, hk⟩ := h.cut_of_beside hk hde
    exact ⟨p, _, rest, hk, mem_append_left _ hc⟩

theorem Linked.siblings_of_beside (h : t.Linked kids) (hcd : TransGen t.Beside c d) :
    ∃ p, c ∈ kids p ∧ d ∈ kids p ∧ c ≠ d := by
  obtain ⟨p, front, back, hk, hc⟩ := h.exists_cut_of_beside hcd
  refine ⟨p, by simp [hk, hc], by simp [hk], ?_⟩
  rintro rfl
  exact (not_mem_of_cut (h.nodup p) hk).1 hc

theorem Linked.above_iff_of_beside (h : t.Linked kids) (hcd : TransGen t.Beside c d) :
    TransGen t.Under c x ↔ TransGen t.Under d x := by
  obtain ⟨p, hc, hd, -⟩ := h.siblings_of_beside hcd
  have hu : ∀ q, t.Under c q ↔ t.Under d q := fun q => by
    rw [Under, h.mem_iff.mp hc, Under, h.mem_iff.mp hd]
  simp only [TransGen.head'_iff, hu]

end Siblings

section Order

variable (h : t.Forest t.children)

include h

theorem Forest.reaches_iff : Reaches t.children p x ↔ ReflTransGen t.Under x p := by
  have hswap : (fun p c => c ∈ t.children p) = Function.swap t.Under := by
    funext p c
    exact propext h.linked.mem_iff
  rw [Reaches, hswap, reflTransGen_swap]

theorem Forest.not_below_beside (hcd : TransGen t.Beside c d) (hx : ReflTransGen t.Under x c) :
    ¬ ReflTransGen t.Under x d := by
  intro hx'
  obtain ⟨p, hc, hd, hne⟩ := h.linked.siblings_of_beside hcd
  exact hne (h.treelike.child_unique hc hd (h.reaches_iff.mpr hx) (h.reaches_iff.mpr hx'))

theorem Forest.precedes_asymm (hxy : t.Precedes x y) : ¬ t.Precedes y x := by
  intro hyx
  cases hxy with
  | above hy =>
    cases hyx with
    | above hx => exact h.grounded.irrefl x (hx.trans hy)
    | apart hy' hcd hx => exact h.not_below_beside hcd hy' (hy.to_reflTransGen.trans hx)
  | @apart c d hx hcd hy =>
    cases hyx with
    | above hx' => exact h.not_below_beside hcd hx (hx'.to_reflTransGen.trans hy)
    | @apart c' d' hy' hcd' hx' =>
      -- Both pairs of siblings are above both nodes. Neither pair can be below one of the other, so
      -- it is one pair in both orders.
      have hne : d' ≠ c := by
        rintro rfl
        exact h.not_below_beside (hcd'.trans hcd) hy' hy
      have hup : Relator.RightUnique t.Under :=
        fun _ _ _ hp hq => Option.some.inj (hp.symm.trans hq)
      rcases ReflTransGen.total_of_right_unique hup hx hx' with hlow | hlow
      · have hc : TransGen t.Under c d' :=
          (reflTransGen_iff_eq_or_transGen.mp hlow).resolve_left hne
        have hd : TransGen t.Under d d' := (h.linked.above_iff_of_beside hcd).mp hc
        exact h.not_below_beside hcd' hy' (hy.trans hd.to_reflTransGen)
      · have hd : TransGen t.Under d' c :=
          (reflTransGen_iff_eq_or_transGen.mp hlow).resolve_left hne.symm
        have hc : TransGen t.Under c' c := (h.linked.above_iff_of_beside hcd').mpr hd
        exact h.not_below_beside hcd (hy'.trans hc.to_reflTransGen) hy

theorem Forest.pairwise_preorder (fuel : Nat) (x : NodeId) :
    (preorder t.children fuel x).Pairwise t.Precedes := by
  induction fuel generalizing x with
  | zero => exact .nil
  | succ fuel ih =>
    have hbelow : ∀ {c y}, y ∈ preorder t.children fuel c → ReflTransGen t.Under y c :=
      fun hy => h.reaches_iff.mp (reaches_of_mem_preorder hy)
    rw [preorder, pairwise_cons, pairwise_flatMap]
    refine ⟨fun y hy => ?_, fun c _ => ih c, ?_⟩
    · obtain ⟨c, hc, hy⟩ := mem_flatMap.mp hy
      exact .above (.tail' (hbelow hy) (h.linked.mem_iff.mp hc))
    · exact (h.linked.pairwise_beside x).imp fun hcd y hy z hz => .apart (hbelow hy) hcd (hbelow hz)

end Order

section Search

def descendants (t : Tree) (start : NodeId) : List NodeId :=
  (t.children start).flatMap (preorder t.children t.size)

theorem findWithin_eq_find? (t : Tree) (tag : String) (fuel : Nat) (start : NodeId) :
    t.findWithin tag fuel start =
      ((t.children start).flatMap (preorder t.children fuel)).find? (t.hasTag tag) := by
  induction fuel generalizing start with
  | zero =>
    rw [findWithin, eq_comm, find?_eq_none]
    simp [preorder]
  | succ fuel ih =>
    rw [findWithin, find?_flatMap]
    congr 1
    funext c
    rw [preorder, find?_cons, ← ih]
    cases t.hasTag tag c <;> rfl

theorem findElement_eq (t : Tree) (start : NodeId) (tag : String) :
    t.findElement start tag = (t.descendants start).find? (t.hasTag tag) :=
  t.findWithin_eq_find? tag t.size start

theorem hasTag_iff : t.hasTag tag x = true ↔ ∃ attrs, t.content? x = some (.element tag attrs) := by
  rw [hasTag, content?]
  cases t.get? x with
  | none => simp
  | some n => cases hn : n.content <;> simp [Node.tag?, hn]

variable (h : t.Forest t.children)

include h

theorem Forest.mem_descendants_iff : x ∈ t.descendants start ↔ TransGen t.Under x start := by
  have hpos : 0 < t.size := (t.contains_iff_lt .root).mp h.contains_root
  have hmem : ∀ c, x ∈ preorder t.children t.size c ↔ ReflTransGen t.Under x c := fun c =>
    (mem_preorder (fun _ _ _ => h.treelike.rank_lt) (rank_lt_size hpos c)).trans h.reaches_iff
  simp only [descendants, mem_flatMap, hmem, h.linked.mem_iff, TransGen.tail'_iff, Under, and_comm]

theorem Forest.pairwise_descendants (start : NodeId) :
    (t.descendants start).Pairwise t.Precedes :=
  (pairwise_cons.mp (h.pairwise_preorder (t.size + 1) start)).2

theorem Forest.precedes_iff (hx : TransGen t.Under x start) (hy : TransGen t.Under y start)
    (hne : x ≠ y) : t.Precedes x y ↔ ¬ t.Precedes y x := by
  have hsorted : (t.descendants start).Pairwise (SymmGen t.Precedes) :=
    (h.pairwise_descendants start).imp .inl
  have hor : SymmGen t.Precedes x y :=
    hsorted.forall (h.mem_descendants_iff.mpr hx) (h.mem_descendants_iff.mpr hy) hne
  exact ⟨h.precedes_asymm, Or.resolve_right hor⟩

theorem Forest.offers_iff :
    t.Offers start tag x ↔ x ∈ t.descendants start ∧ t.hasTag tag x = true := by
  rw [h.mem_descendants_iff, hasTag_iff]
  exact ⟨fun hx => ⟨hx.below, hx.element⟩, fun hx => ⟨hx.1, hx.2⟩⟩

theorem Forest.findElement_eq_none_iff :
    t.findElement start tag = none ↔ ∀ x, ¬ t.Offers start tag x := by
  simp only [findElement_eq, find?_eq_none, h.offers_iff, not_and]

theorem Forest.leads_of_findElement (hx : t.findElement start tag = some x) :
    t.Leads (t.Offers start tag) x := by
  rw [findElement_eq] at hx
  obtain ⟨htag, front, back, hcut, hfront⟩ := find?_eq_some_iff_append.mp hx
  have hsorted := h.pairwise_descendants start
  rw [hcut, pairwise_append, pairwise_cons] at hsorted
  obtain ⟨-, ⟨hback, -⟩, -⟩ := hsorted
  constructor
  case holds => exact h.offers_iff.mpr ⟨by simp [hcut], htag⟩
  case precedes =>
    intro y hy hne
    obtain ⟨hmem, hytag⟩ := h.offers_iff.mp hy
    rw [hcut, mem_append, mem_cons] at hmem
    rcases hmem with hy' | rfl | hy'
    · exact absurd hytag (by simpa using hfront y hy')
    · exact absurd rfl hne
    · exact hback y hy'

theorem Forest.leads_unique {P : NodeId → Prop} (hx : t.Leads P x) (hy : t.Leads P y) : x = y := by
  by_contra hne
  exact h.precedes_asymm (hx.precedes y hy.holds (Ne.symm hne)) (hy.precedes x hx.holds hne)

theorem Forest.findElement_eq_some_iff :
    t.findElement start tag = some x ↔ t.Leads (t.Offers start tag) x := by
  refine ⟨h.leads_of_findElement, fun hx => ?_⟩
  cases hf : t.findElement start tag with
  | none => exact absurd hx.holds (h.findElement_eq_none_iff.mp hf x)
  | some y => rw [h.leads_unique (h.leads_of_findElement hf) hx]

theorem Forest.tells (start : NodeId) (tag : String) :
    t.Tells start tag ((t.findElement start tag).getD .absent) := by
  cases hf : t.findElement start tag with
  | none => exact .inr ⟨rfl, h.findElement_eq_none_iff.mp hf⟩
  | some x => exact .inl (h.leads_of_findElement hf)

theorem Forest.findsFirst : t.FindsFirst where
  precedes_iff := fun _ _ _ hx hy hne => h.precedes_iff hx hy hne
  findElement_eq_none_iff := fun _ _ => h.findElement_eq_none_iff
  findElement_eq_some_iff := fun _ _ _ => h.findElement_eq_some_iff
  html := fun _ => h.tells .root "html"
  head := fun key => h.tells (Document.ofTree key t).html "head"
  body := fun key => h.tells (Document.ofTree key t).html "body"

end Search

/-- Whatever was done to an empty tree, its elements are found in document order. -/
theorem findsFirst_of_run (edits : List Edit) (hs : (Tree.empty.run edits).size < 2 ^ 32 - 1) :
    (Tree.empty.run edits).FindsFirst :=
  (forest_of_run edits hs).findsFirst

def buriedEdits : List Edit :=
  [.createElement "HTML" [], .createElement "head" [], .createText "a", .createElement "div" [],
    .createElement "Head" [], .createElement "body" [], .createElement "head" [],
    .appendChild .root ⟨1⟩, .appendChild ⟨1⟩ ⟨2⟩, .insertBefore ⟨1⟩ ⟨3⟩ (some ⟨2⟩),
    .appendChild ⟨4⟩ ⟨5⟩, .appendChild ⟨3⟩ ⟨4⟩, .appendChild ⟨2⟩ ⟨6⟩]

theorem findsFirst_of_run_buriedEdits :
    (Tree.empty.run buriedEdits).size < 2 ^ 32 - 1 ∧ (Tree.empty.run buriedEdits).FindsFirst ∧
      (Document.ofTree 0 (Tree.empty.run buriedEdits)).head = ⟨5⟩ ∧
      (Tree.empty.run buriedEdits).Offers ⟨1⟩ "head" ⟨2⟩ ∧
      (Tree.empty.run buriedEdits).Precedes ⟨5⟩ ⟨2⟩ ∧
      ∀ x, ¬ (Tree.empty.run buriedEdits).Offers ⟨7⟩ "head" x := by
  have hs : (Tree.empty.run buriedEdits).size < 2 ^ 32 - 1 := by decide +kernel
  have h := findsFirst_of_run buriedEdits hs
  have hparent : (Tree.empty.run buriedEdits).parent? ⟨2⟩ = some ⟨1⟩ := by decide +kernel
  have hlater : (Tree.empty.run buriedEdits).Offers ⟨1⟩ "head" ⟨2⟩ :=
    ⟨.single hparent, [], by decide +kernel⟩
  have hfirst := (h.findElement_eq_some_iff ⟨1⟩ "head" ⟨5⟩).mp (by decide +kernel)
  exact ⟨hs, h, by decide +kernel, hlater, hfirst.precedes ⟨2⟩ hlater (by decide),
    (h.findElement_eq_none_iff ⟨7⟩ "head").mp (by decide +kernel)⟩

end HeadAudit.Live.Tree

import HeadAudit.Proofs.Live.Copy

namespace HeadAudit.Live

namespace Tree

open Relation

variable {t : Tree} {p a b c d q : NodeId}

/-- Whatever stands above a node is in the tree. -/
def Anchored (t : Tree) : Prop := ∀ c p, t.Under c p → t.contains p

theorem Anchored.contains_of_above (h : t.Anchored) (hp : t.contains p)
    (hd : ReflTransGen t.Under p d) : t.contains d := by
  induction hd with
  | refl => exact hp
  | tail _ hu _ => exact h _ _ hu

theorem under_of_splice (h : (t.splice p a c b).Under d q) : d = c ∧ q = p ∨ t.Under d q := by
  rw [Under, splice, parent?_setBefore, parent?_setAfter, parent?_eq_some_iff] at h
  obtain ⟨n, hn, rfl, ha⟩ := h
  rw [get?_update] at hn
  split at hn
  · next hd =>
    obtain ⟨m, -, rfl⟩ := Option.map_eq_some_iff.mp hn
    exact .inl ⟨hd, rfl⟩
  · exact .inr (parent?_eq_some_iff.mpr ⟨n, hn, rfl, ha⟩)

theorem Anchored.create (h : t.Anchored) (content : Content) : (t.create content).1.Anchored := by
  intro c p hu
  rw [Under, parent?_create] at hu
  rw [contains_create, h c p hu, Bool.or_true]

theorem Anchored.attach (h : t.Anchored) (hp : t.contains p) (reference : Option NodeId) :
    ((t.detach c).attach p c reference).Anchored := by
  obtain ⟨a, b, hs⟩ := (t.detach c).exists_splice p c reference
  intro d q hu
  rw [hs] at hu ⊢
  rw [contains_splice, contains_detach]
  rcases under_of_splice hu with ⟨-, rfl⟩ | hu
  · exact hp
  · exact h d q (under_of_detach hu)

/-- A new node goes under any other. -/
theorem Anchored.exists_append (h : t.Anchored) (hp : t.contains p) (content : Content) :
    ∃ u, (t.create content).1.appendChild p ⟨t.size⟩ = .ok u ∧ u.Anchored ∧
      u.size = t.size + 1 := by
  have hlt := (t.contains_iff_lt p).mp hp
  have hp' : (t.create content).1.contains p := by rw [contains_create, hp, Bool.or_true]
  have hnew : (t.create content).1.contains ⟨t.size⟩ := by
    rw [contains_create, beq_self_eq_true, Bool.true_or]
  have hroot : (⟨t.size⟩ : NodeId) ≠ .root := by
    rw [NodeId.root, Ne, NodeId.mk.injEq]
    omega
  have habove : (t.create content).1.isInclusiveAncestor ⟨t.size⟩ p = false := by
    rw [isInclusiveAncestor, decide_eq_false_iff_not]
    intro hm
    have hup : ReflTransGen t.Under p ⟨t.size⟩ := above_of_create (mem_lineage hm)
    exact ne_of_contains (h.contains_of_above hp hup) not_contains_fresh rfl
  have hok : (t.create content).1.insertError? p ⟨t.size⟩ none = none := by
    simp [insertError?, hp', hnew, hroot, habove]
  refine ⟨_, insertBefore_eq_ok_iff.mpr ⟨hok, rfl⟩, ?_, ?_⟩
  · exact (h.create content).attach hp' none
  · simp

mutual

theorem Anchored.exists_copyNode (n : Markup.Node) (t : Tree) (p : NodeId) (h : t.Anchored)
    (hp : t.contains p) : ∃ u, t.copyNode p n = .ok u ∧ u.Anchored ∧ t.size ≤ u.size := by
  cases n with
  | doctype name => exact ⟨t, by rw [copyNode], h, le_refl _⟩
  | text s =>
    by_cases hb : Text.blank s
    · exact ⟨t, by rw [copyNode, if_pos hb], h, le_refl _⟩
    · obtain ⟨u, hu, ha, hs⟩ := h.exists_append hp (.text s)
      refine ⟨u, ?_, ha, by omega⟩
      rw [copyNode, if_neg hb]
      exact hu
  | comment s =>
    obtain ⟨u, hu, ha, hs⟩ := h.exists_append hp (.comment s)
    refine ⟨u, ?_, ha, by omega⟩
    rw [copyNode]
    exact hu
  | element tag attrs children template =>
    obtain ⟨u, hu, ha, hs⟩ :=
      h.exists_append hp (.element (Ascii.lower tag) (Attributes.setAll [] attrs))
    have hid : u.contains ⟨t.size⟩ := by
      rw [contains_iff_lt, hs]
      exact Nat.lt_succ_self _
    obtain ⟨v, hv, ha', hs'⟩ := Anchored.exists_copyNodes children u ⟨t.size⟩ ha hid
    refine ⟨v, ?_, ha', by omega⟩
    rw [copyNode_element, hu]
    exact hv

theorem Anchored.exists_copyNodes (ns : List Markup.Node) (t : Tree) (p : NodeId) (h : t.Anchored)
    (hp : t.contains p) : ∃ u, t.copyNodes p ns = .ok u ∧ u.Anchored ∧ t.size ≤ u.size := by
  cases ns with
  | nil => exact ⟨t, by rw [copyNodes], h, le_refl _⟩
  | cons n ns =>
    obtain ⟨u, hu, ha, hs⟩ := Anchored.exists_copyNode n t p h hp
    obtain ⟨v, hv, ha', hs'⟩ := Anchored.exists_copyNodes ns u p ha (contains_of_size_le hs hp)
    refine ⟨v, ?_, ha', by omega⟩
    rw [copyNodes_cons, hu]
    exact hv

end

end Tree

/-- Every parsed document has a live copy. -/
theorem Document.exists_ofMarkup (key : Nat) (d : Markup.Document) :
    ∃ live, Document.ofMarkup key d = .ok live := by
  have ha : Tree.empty.Anchored := fun _ _ hu => Tree.forest_empty.linked.contains_parent hu
  obtain ⟨t, ht, -⟩ :=
    Tree.Anchored.exists_copyNodes d.nodes .empty .root ha Tree.forest_empty.contains_root
  exact ⟨.ofTree key t, by rw [ofMarkup, ht]; rfl⟩

end HeadAudit.Live

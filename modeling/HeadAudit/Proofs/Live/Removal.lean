import HeadAudit.Proofs.Live.Edits

namespace HeadAudit.Live.Tree

open Relation

/-- The trees before and after a node was taken out from among the children of its parent. -/
structure Removed (t u : Tree) (p c : NodeId) : Prop where
  children : ∃ front back, t.children p = front ++ c :: back ∧ u.children p = front ++ back
  children_of_ne : ∀ q, q ≠ p → u.children q = t.children q
  unlisted : ∀ q, c ∉ u.children q
  loose : ∃ n, u.get? c = some n ∧ n.parent = .absent ∧ n.previous = .absent ∧ n.next = .absent
  parent_of_ne : ∀ d, d ≠ c → u.parent? d = t.parent? d
  below_iff : ∀ d, ReflTransGen u.Under d c ↔ ReflTransGen t.Under d c
  content? : ∀ d, u.content? d = t.content? d
  size : u.size = t.size

/-- What comes of a call that is to take a node out from under a parent. -/
structure Removes (t : Tree) (p c : NodeId) : Prop where
  /-- A node that stands nowhere passes for a child of the absent id. -/
  succeeds_iff : (∃ u, t.removeChild p c = .ok u) ↔
    c ∈ t.children p ∨ p = .absent ∧ t.contains c ∧ t.parent? c = none
  error : ∀ e, t.removeChild p c = .error e →
    e = if t.contains c then .notAChild p c else .notFound c
  removed : ∀ u, c ∈ t.children p → t.removeChild p c = .ok u → Removed t u p c
  /-- Nothing changes unless the node is a child, whether the call succeeds or not. -/
  unchanged : c ∉ t.children p → t.apply (.removeChild p c) = t

variable {t u : Tree} {p c d : NodeId}

theorem removeChild_eq_ok_iff :
    t.removeChild p c = .ok u ↔ (∃ n, t.get? c = some n ∧ n.parent = p) ∧ u = t.detach c := by
  rw [removeChild]
  cases hc : t.get? c with
  | none => simp
  | some n => by_cases hp : n.parent = p <;> simp [hp, eq_comm (b := u)]

theorem Forest.parent_eq_iff (h : t.Forest t.children) : (∃ n, t.get? c = some n ∧ n.parent = p) ↔
    c ∈ t.children p ∨ p = .absent ∧ t.contains c ∧ t.parent? c = none := by
  rw [h.linked.mem_iff, parent?_eq_some_iff]
  constructor
  · rintro ⟨n, hn, hnp⟩
    by_cases hp : p = .absent
    · have hnone : t.parent? c = none := by simp [parent?, hn, hnp, hp]
      exact .inr ⟨hp, (t.contains_iff c).mpr ⟨n, hn⟩, hnone⟩
    · exact .inl ⟨n, hn, hnp, hp⟩
  · rintro (⟨n, hn, hnp, -⟩ | ⟨rfl, hc, hnone⟩)
    · exact ⟨n, hn, hnp⟩
    · obtain ⟨n, hn⟩ := (t.contains_iff c).mp hc
      exact ⟨n, hn, parent_eq_absent hn hnone⟩

theorem Forest.reflTransGen_under_detach (h : t.Forest t.children) :
    ReflTransGen (t.detach c).Under d c ↔ ReflTransGen t.Under d c := by
  constructor
  · exact above_of_detach
  · intro hd
    induction hd using ReflTransGen.head_induction_on with
    | refl => exact .refl
    | @head d e hde hec ih =>
      have hdc : d ≠ c := by
        rintro rfl
        exact h.grounded.irrefl d (.head' hde hec)
      refine .head ?_ ih
      rwa [Under, parent?_detach, if_neg hdc]

/-- A child that is taken out leaves one list, whatever its place in it. -/
theorem Forest.removed (h : t.Forest t.children) (hc : c ∈ t.children p) :
    Removed t (t.detach c) p c := by
  obtain ⟨front, back, hk⟩ := List.append_of_mem hc
  have hu := h.detach (c := c)
  have hkids (q : NodeId) : (t.detach c).children q = if q = p then front ++ back else
      t.children q := by
    rw [hu.linked.children_eq, h.linked.erase_eq hk]
  have hnone : (t.detach c).parent? c = none := by rw [parent?_detach, if_pos rfl]
  obtain ⟨n, hn⟩ := (contains_iff _ c).mp
    (contains_detach.trans (h.linked.contains_of_mem hc) : (t.detach c).contains c = true)
  constructor
  case children => exact ⟨front, back, hk, by rw [hkids, if_pos rfl]⟩
  case children_of_ne => exact fun q hq => by rw [hkids, if_neg hq]
  case unlisted =>
    intro q
    rw [hu.linked.children_eq, hu.linked.mem_iff, hnone]
    exact nofun
  case loose =>
    exact ⟨n, hn, hu.linked.links_of_loose hn hnone⟩
  case parent_of_ne => exact fun d hd => by rw [parent?_detach, if_neg hd]
  case below_iff => exact fun d => h.reflTransGen_under_detach
  case content? => simp
  case size => simp

theorem Forest.removes (h : t.Forest t.children) (p c : NodeId) : t.Removes p c := by
  constructor
  case succeeds_iff =>
    simp only [removeChild_eq_ok_iff, exists_and_left, exists_eq, and_true, h.parent_eq_iff]
  case error =>
    intro e he
    rw [removeChild] at he
    cases hc : t.get? c with
    | none =>
      rw [hc] at he
      rw [(t.contains_eq_false_iff c).mpr hc]
      exact (Except.error.inj he).symm
    | some n =>
      rw [(t.contains_iff c).mpr ⟨n, hc⟩, if_pos rfl]
      simp only [hc] at he
      split at he
      · cases he
      · exact (Except.error.inj he).symm
  case removed =>
    intro u hc hu
    rw [(removeChild_eq_ok_iff.mp hu).2]
    exact h.removed hc
  case unchanged =>
    intro hno
    rw [apply_removeChild]
    cases hu : t.removeChild p c with
    | error e => rfl
    | ok u =>
      obtain ⟨hheld, rfl⟩ := removeChild_eq_ok_iff.mp hu
      obtain hc | ⟨-, -, hnone⟩ := h.parent_eq_iff.mp hheld
      · exact absurd hc hno
      · exact h.linked.detach_of_loose hnone

/-- Whatever was done to an empty tree before, a removal takes out the child that it is given, and
one that is given no child changes nothing. -/
theorem removes_of_run (edits : List Edit) (hs : (Tree.empty.run edits).size < 2 ^ 32 - 1)
    (p c : NodeId) : (Tree.empty.run edits).Removes p c :=
  (forest_of_changes (Tree.empty.changes_run edits) forest_empty.children hs.le).removes p c

def nestedEdits : List Edit :=
  [.createElement "ul" [], .createElement "li" [], .createElement "li" [], .createElement "li" [],
    .createText "a", .appendChild .root ⟨1⟩, .appendChild ⟨1⟩ ⟨2⟩, .appendChild ⟨1⟩ ⟨3⟩,
    .appendChild ⟨1⟩ ⟨4⟩, .appendChild ⟨3⟩ ⟨5⟩]

theorem removes_of_run_nestedEdits :
    (Tree.empty.run nestedEdits).size < 2 ^ 32 - 1 ∧
      ∃ u, (Tree.empty.run nestedEdits).removeChild ⟨1⟩ ⟨3⟩ = .ok u ∧
        Removed (Tree.empty.run nestedEdits) u ⟨1⟩ ⟨3⟩ ∧
        u.children ⟨1⟩ = [⟨2⟩, ⟨4⟩] ∧ u.children ⟨3⟩ = [⟨5⟩] := by
  have hs : (Tree.empty.run nestedEdits).size < 2 ^ 32 - 1 := by decide +kernel
  have hr := removes_of_run nestedEdits hs ⟨1⟩ ⟨3⟩
  have hu : (Tree.empty.run nestedEdits).removeChild ⟨1⟩ ⟨3⟩ =
      .ok (Tree.empty.run (nestedEdits ++ [.removeChild ⟨1⟩ ⟨3⟩])) := by decide +kernel
  exact ⟨hs, _, hu, hr.removed _ (by decide +kernel) hu, by decide +kernel, by decide +kernel⟩

/-- A new element, which stands nowhere, is taken out from under nothing. -/
theorem not_mem_children_of_removeChild :
    ¬ ∀ edits : List Edit, (Tree.empty.run edits).size < 2 ^ 32 - 1 → ∀ p c,
      (∃ u, (Tree.empty.run edits).removeChild p c = .ok u) →
        c ∈ (Tree.empty.run edits).children p := by
  intro h
  have hu : (Tree.empty.run [.createElement "li" []]).removeChild .absent ⟨1⟩ =
      .ok (Tree.empty.run [.createElement "li" []]) := by decide +kernel
  have hmem := h [.createElement "li" []] (by decide +kernel) .absent ⟨1⟩ ⟨_, hu⟩
  exact absurd hmem (by decide +kernel)

end HeadAudit.Live.Tree

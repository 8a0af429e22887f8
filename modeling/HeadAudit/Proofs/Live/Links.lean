import HeadAudit.Proofs.Live.Slots

namespace HeadAudit.Live.Tree

open NodeId

/-- The links of a tree amount to these lists of children. Wherever a list is cut in two, the link
on either side holds the node on the other side. -/
structure Linked (t : Tree) (kids : NodeId → List NodeId) : Prop where
  absent : t.get? .absent = none
  mem_iff : ∀ {p c}, c ∈ kids p ↔ t.parent? c = some p
  contains_parent : ∀ {p c}, t.parent? c = some p → t.contains p
  nodup : ∀ p, (kids p).Nodup
  after : ∀ {p front back}, t.contains p → kids p = front ++ back →
    t.after p (lastOf front) = firstOf back
  before : ∀ {p front back}, t.contains p → kids p = front ++ back →
    t.before p (firstOf back) = lastOf front
  loose : ∀ {c} q, t.contains c → t.parent? c = none →
    t.after q c = .absent ∧ t.before q c = .absent

variable {t : Tree} {kids : NodeId → List NodeId} {p q c d : NodeId}

theorem contains_of_parent? (h : t.parent? c = some p) : t.contains c := by
  cases hc : t.get? c with
  | none => simp [parent?, hc] at h
  | some n => simp [contains, hc]

theorem parent?_eq_some_iff : t.parent? c = some p ↔
    ∃ n, t.get? c = some n ∧ n.parent = p ∧ p ≠ .absent := by
  cases hc : t.get? c with
  | none => simp [parent?, hc]
  | some n =>
    simp only [parent?, hc, Option.map_some, Option.filter_eq_some_iff, Option.some.injEq]
    constructor
    · rintro ⟨rfl, hp⟩
      exact ⟨n, rfl, rfl, by simpa using hp⟩
    · rintro ⟨m, rfl, rfl, hp⟩
      exact ⟨rfl, by simpa using hp⟩

theorem parent_eq_absent {n : Node} (hn : t.get? c = some n) (hp : t.parent? c = none) :
    n.parent = .absent := by
  by_contra hne
  simp [parent?, hn, hne] at hp

theorem not_mem_of_cut {ids front back : List NodeId} (hn : ids.Nodup)
    (h : ids = front ++ c :: back) : c ∉ front ∧ c ∉ back := by
  rw [h, List.nodup_middle, List.nodup_cons, List.mem_append, not_or] at hn
  exact hn.1

theorem cut_unique {ids front back front' back' : List NodeId} (hn : ids.Nodup)
    (h : ids = front ++ c :: back) (h' : ids = front' ++ c :: back') :
    front = front' ∧ back = back' := by
  obtain ⟨hfront, hback⟩ := not_mem_of_cut hn h
  obtain ⟨hf, -, hb⟩ := (List.append_cons_inj_of_notMem hfront hback).mp (h.symm.trans h')
  exact ⟨hf, hb⟩

namespace Linked

theorem contains_of_mem (h : t.Linked kids) (hc : c ∈ kids p) : t.contains c :=
  contains_of_parent? (h.mem_iff.mp hc)

theorem parent_unique (h : t.Linked kids) (hp : c ∈ kids p) (hq : c ∈ kids q) : p = q := by
  rw [h.mem_iff] at hp hq
  exact Option.some.inj (hp.symm.trans hq)

theorem kids_of_not_contains (h : t.Linked kids) (hp : t.contains p = false) : kids p = [] := by
  rw [List.eq_nil_iff_forall_not_mem]
  intro c hc
  have := h.contains_parent (h.mem_iff.mp hc)
  simp [hp] at this

theorem not_contains_absent (h : t.Linked kids) : t.contains .absent = false :=
  (t.contains_eq_false_iff _).mpr h.absent

theorem slot_absent (h : t.Linked kids) : t.slot p .absent = (p, false) := by
  simp [slot, h.not_contains_absent]

theorem slot_of_mem (h : t.Linked kids) (hc : c ∈ kids p) : t.slot q c = (c, true) := by
  simp [slot, h.contains_of_mem hc]

theorem slot_lastOf_injective (h : t.Linked kids) {front back front' back' : List NodeId}
    (hp : kids p = front ++ back) (hq : kids q = front' ++ back')
    (hs : t.slot p (lastOf front) = t.slot q (lastOf front')) : p = q ∧ front = front' := by
  rcases List.eq_nil_or_concat' front with rfl | ⟨init, e, rfl⟩ <;>
    rcases List.eq_nil_or_concat' front' with rfl | ⟨init', e', rfl⟩
  · simp only [lastOf_nil, h.slot_absent, Prod.mk.injEq, and_true] at hs
    exact ⟨hs, rfl⟩
  · have he : e' ∈ kids q := by simp [hq]
    simp [h.slot_absent, h.slot_of_mem he] at hs
  · have he : e ∈ kids p := by simp [hp]
    simp [h.slot_absent, h.slot_of_mem he] at hs
  · have he : e ∈ kids p := by simp [hp]
    have he' : e' ∈ kids q := by simp [hq]
    simp only [lastOf_concat, h.slot_of_mem he, h.slot_of_mem he', Prod.mk.injEq, and_true] at hs
    subst hs
    obtain rfl := h.parent_unique he he'
    rw [List.append_assoc, List.singleton_append] at hp hq
    exact ⟨rfl, by rw [(cut_unique (h.nodup p) hp hq).1]⟩

/-- The slot in front of a back part tells the parent and the back part. -/
theorem slot_firstOf_injective (h : t.Linked kids) {front back front' back' : List NodeId}
    (hp : kids p = front ++ back) (hq : kids q = front' ++ back')
    (hs : t.slot p (firstOf back) = t.slot q (firstOf back')) : p = q ∧ back = back' := by
  cases back with
  | nil =>
    cases back' with
    | nil =>
      simp only [firstOf_nil, h.slot_absent, Prod.mk.injEq, and_true] at hs
      exact ⟨hs, rfl⟩
    | cons e' rest' =>
      have he : e' ∈ kids q := by simp [hq]
      simp [h.slot_absent, h.slot_of_mem he] at hs
  | cons e rest =>
    have he : e ∈ kids p := by simp [hp]
    cases back' with
    | nil => simp [h.slot_absent, h.slot_of_mem he] at hs
    | cons e' rest' =>
      have he' : e' ∈ kids q := by simp [hq]
      simp only [firstOf_cons, h.slot_of_mem he, h.slot_of_mem he', Prod.mk.injEq, and_true] at hs
      subst hs
      obtain rfl := h.parent_unique he he'
      exact ⟨rfl, by rw [(cut_unique (h.nodup p) hp hq).2]⟩

/-- A node without a parent is next to no slot of a list. -/
theorem slot_ne_of_loose (h : t.Linked kids) (hd : t.contains d) (hn : t.parent? d = none)
    {front back : List NodeId} (hp : kids p = front ++ back) (q : NodeId) :
    t.slot q d ≠ t.slot p (lastOf front) ∧ t.slot q d ≠ t.slot p (firstOf back) := by
  have hnot : ∀ e ∈ kids p, d ≠ e := by
    rintro e he rfl
    simp [h.mem_iff.mp he] at hn
  have hs : t.slot q d = (d, true) := by simp [slot, hd]
  constructor
  · rcases List.eq_nil_or_concat' front with rfl | ⟨init, e, rfl⟩
    · simp [hs, h.slot_absent]
    · have he : e ∈ kids p := by simp [hp]
      simp [hs, h.slot_of_mem he, hnot e he]
  · cases back with
    | nil => simp [hs, h.slot_absent]
    | cons e rest =>
      have he : e ∈ kids p := by simp [hp]
      simp [hs, h.slot_of_mem he, hnot e he]

end Linked

/-- Each cut of a list with `c` in it and of the list without `c` is either next to `c` or is a
cut between the same two neighbours of the other list. -/
theorem cut_without {front back front' back' : List NodeId}
    (h : front ++ back = front' ++ back') :
    (front' = front ∧ back' = back) ∨
      ∃ f b, front ++ c :: back = f ++ b ∧ lastOf f = lastOf front' ∧ firstOf b = firstOf back' ∧
        f ≠ front ∧ b ≠ back := by
  rcases List.append_eq_append_iff.mp h with ⟨mid, rfl, rfl⟩ | ⟨mid, rfl, rfl⟩
  · by_cases hm : mid = []
    · subst hm
      exact .inl ⟨by simp, by simp⟩
    · refine .inr ⟨front ++ c :: mid, back', by simp, ?_, rfl, by simp, by simpa using hm⟩
      rw [← List.singleton_append, ← List.append_assoc, lastOf_append _ _ hm,
        lastOf_append _ _ hm]
  · by_cases hm : mid = []
    · subst hm
      exact .inl ⟨by simp, by simp⟩
    · refine .inr ⟨front', mid ++ c :: back, by simp, rfl, ?_, by simpa using hm, ?_⟩
      · rw [firstOf_append _ _ hm, firstOf_append _ _ hm]
      · intro he
        have := congrArg List.length he
        simp only [List.length_append, List.length_cons] at this
        omega

theorem cut_with {front back front' back' : List NodeId}
    (h : front ++ c :: back = front' ++ back') :
    (front' = front ∧ back' = c :: back) ∨ (front' = front ++ [c] ∧ back' = back) ∨
      ∃ f b, front ++ back = f ++ b ∧ lastOf f = lastOf front' ∧ firstOf b = firstOf back' ∧
        f ≠ front ∧ b ≠ back := by
  rcases List.append_eq_append_iff.mp h with ⟨mid, rfl, hm⟩ | ⟨mid, rfl, rfl⟩
  · cases mid with
    | nil => exact .inl ⟨by simp, by simpa using hm.symm⟩
    | cons e mid =>
      obtain ⟨rfl, rfl⟩ : c = e ∧ back = mid ++ back' := by simpa using hm
      by_cases hm : mid = []
      · subst hm
        exact .inr (.inl ⟨rfl, by simp⟩)
      · refine .inr (.inr ⟨front ++ mid, back', by simp, ?_, rfl, by simpa using hm,
          by simpa using hm⟩)
        rw [← List.singleton_append (l := mid), ← List.append_assoc, lastOf_append _ _ hm,
          lastOf_append _ _ hm]
  · by_cases hm : mid = []
    · subst hm
      exact .inl ⟨by simp, by simp⟩
    · refine .inr (.inr ⟨front', mid ++ back, by simp, rfl, ?_, by simpa using hm,
        by simpa using hm⟩)
      rw [firstOf_append _ _ hm, firstOf_append _ _ hm]

end HeadAudit.Live.Tree

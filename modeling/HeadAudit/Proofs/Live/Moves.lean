import HeadAudit.Proofs.Live.Links

namespace HeadAudit.Live.Tree

open NodeId

variable {t : Tree} {kids : NodeId → List NodeId} {p q c d : NodeId}

def stripped (n : Node) : Node :=
  { n with parent := .absent, previous := .absent, next := .absent }

theorem detach_eq {n : Node} (hc : t.get? c = some n) :
    t.detach c = (t.join n.parent n.previous n.next).update c stripped := by
  rw [detach, hc]
  rfl

theorem detach_of_not_contains (hc : t.contains c = false) : t.detach c = t := by
  rw [contains_eq_false_iff] at hc
  rw [detach, hc]

@[simp] theorem contains_join (a b : NodeId) : (t.join p a b).contains d = t.contains d := by
  simp [join_eq]

@[simp] theorem contains_detach : (t.detach c).contains d = t.contains d := by
  cases hc : t.get? c with
  | none => rw [detach_of_not_contains ((t.contains_eq_false_iff c).mpr hc)]
  | some n => simp [detach_eq hc]

@[simp] theorem size_detach : (t.detach c).size = t.size := by
  cases hc : t.get? c with
  | none => rw [detach_of_not_contains ((t.contains_eq_false_iff c).mpr hc)]
  | some n => simp [detach_eq hc, join_eq]

theorem parent?_detach : (t.detach c).parent? d = if d = c then none else t.parent? d := by
  cases hc : t.get? c with
  | none =>
    rw [detach_of_not_contains ((t.contains_eq_false_iff c).mpr hc)]
    split
    · next h => simp [parent?, h, hc]
    · rfl
  | some n =>
    have hj : (t.join n.parent n.previous n.next).parent? d = t.parent? d := by simp [join_eq]
    rw [detach_eq hc]
    by_cases hd : d = c
    · cases hg : (t.join n.parent n.previous n.next).get? c <;>
        simp [parent?, get?_update, hd, hg, stripped]
    · rw [if_neg hd, ← hj]
      simp only [parent?, get?_update, if_neg hd]

@[simp] theorem content?_detach : (t.detach c).content? d = t.content? d := by
  cases hc : t.get? c with
  | none => rw [detach_of_not_contains ((t.contains_eq_false_iff c).mpr hc)]
  | some n =>
    have hj : (t.join n.parent n.previous n.next).content? d = t.content? d := by simp [join_eq]
    rw [detach_eq hc, ← hj]
    simp only [content?, get?_update]
    split
    · simp [stripped, Function.comp_def]
    · rfl

theorem after_detach_self {n : Node} (hc : t.get? c = some n) :
    (t.detach c).after q c = .absent ∧ (t.detach c).before q c = .absent := by
  have hj : (t.join n.parent n.previous n.next).contains c = true := by
    rw [contains_join, contains_iff]
    exact ⟨n, hc⟩
  obtain ⟨m, hm⟩ := (contains_iff _ _).mp hj
  rw [detach_eq hc, after_update_self _ _ _ hm, before_update_self _ _ _ hm]
  exact ⟨rfl, rfl⟩

theorem after_detach_of_ne {n : Node} (hc : t.get? c = some n) (hd : d ≠ c)
    (hs : t.slot q d ≠ t.slot n.parent n.previous) :
    (t.detach c).after q d = t.after q d := by
  have hf : ∀ m, (stripped m).firstChild = m.firstChild := fun _ => rfl
  rw [detach_eq hc, after_update_of_ne _ _ _ _ hf hd, join_eq, after_setBefore,
    after_setAfter_of_ne _ _ _ _ _ _ hs]

theorem before_detach_of_ne {n : Node} (hc : t.get? c = some n) (hd : d ≠ c)
    (hs : t.slot q d ≠ t.slot n.parent n.next) :
    (t.detach c).before q d = t.before q d := by
  have hf : ∀ m, (stripped m).lastChild = m.lastChild := fun _ => rfl
  rw [detach_eq hc, before_update_of_ne _ _ _ _ hf hd, join_eq,
    before_setBefore_of_ne _ _ _ _ _ _ (by simpa using hs), before_setAfter]

theorem after_detach_previous {n : Node} (hc : t.get? c = some n) (hp : t.contains n.parent)
    (hd : n.previous ≠ c) : (t.detach c).after n.parent n.previous = n.next := by
  have hf : ∀ m, (stripped m).firstChild = m.firstChild := fun _ => rfl
  rw [detach_eq hc, after_update_of_ne _ _ _ _ hf hd, join_eq, after_setBefore,
    after_setAfter_self _ _ _ _ hp]

theorem before_detach_next {n : Node} (hc : t.get? c = some n) (hp : t.contains n.parent)
    (hd : n.next ≠ c) : (t.detach c).before n.parent n.next = n.previous := by
  have hf : ∀ m, (stripped m).lastChild = m.lastChild := fun _ => rfl
  rw [detach_eq hc, before_update_of_ne _ _ _ _ hf hd, join_eq,
    before_setBefore_self _ _ _ _ (by simpa using hp)]

namespace Linked

theorem ne_absent (h : t.Linked kids) (hc : t.contains c) : c ≠ .absent := by
  rintro rfl
  simp [h.not_contains_absent] at hc

theorem links_of_mem (h : t.Linked kids) {front back : List NodeId}
    (hk : kids p = front ++ c :: back) :
    ∃ n, t.get? c = some n ∧ n.parent = p ∧ n.previous = lastOf front ∧ n.next = firstOf back := by
  have hp : t.parent? c = some p := h.mem_iff.mp (by simp [hk])
  obtain ⟨n, hn, hnp, -⟩ := parent?_eq_some_iff.mp hp
  have hb := h.before (h.contains_parent hp) hk
  have hcut : kids p = (front ++ [c]) ++ back := by simp [hk]
  have ha := h.after (h.contains_parent hp) hcut
  rw [firstOf_cons, before_of_get? _ _ _ hn] at hb
  rw [lastOf_concat, after_of_get? _ _ _ hn] at ha
  exact ⟨n, hn, hnp, hb, ha⟩

theorem links_of_loose (h : t.Linked kids) {n : Node} (hn : t.get? c = some n)
    (hp : t.parent? c = none) :
    n.parent = .absent ∧ n.previous = .absent ∧ n.next = .absent := by
  obtain ⟨ha, hb⟩ := h.loose .absent ((t.contains_iff c).mpr ⟨n, hn⟩) hp
  rw [after_of_get? _ _ _ hn] at ha
  rw [before_of_get? _ _ _ hn] at hb
  exact ⟨parent_eq_absent hn hp, hb, ha⟩

theorem detach_of_loose (h : t.Linked kids) (hc : t.parent? c = none) : t.detach c = t := by
  cases hn : t.get? c with
  | none => exact detach_of_not_contains ((t.contains_eq_false_iff c).mpr hn)
  | some n =>
    obtain ⟨hp, hb, ha⟩ := h.links_of_loose hn hc
    have hs : stripped n = n := by
      cases n
      simp_all [stripped]
    have hno (f : Node → Node) : t.update .absent f = t :=
      t.update_eq_self _ fun m hm => by simp [h.absent] at hm
    rw [detach_eq hn, hp, ha, hb, join_eq, setAfter, setBefore]
    simp only [h.not_contains_absent, Bool.false_eq_true, if_false, hno]
    exact t.update_eq_self _ fun m hm => by rw [← Option.some.inj (hn.symm.trans hm), hs]

theorem erase_eq (h : t.Linked kids) {front back : List NodeId}
    (hk : kids p = front ++ c :: back) (q : NodeId) :
    (kids q).erase c = if q = p then front ++ back else kids q := by
  by_cases hq : q = p
  · subst hq
    have hfront := (not_mem_of_cut (h.nodup q) hk).1
    rw [if_pos rfl, hk, List.erase_append_right _ hfront, List.erase_cons_head]
  · rw [if_neg hq, List.erase_of_not_mem]
    intro hc
    exact hq (h.parent_unique hc (by simp [hk]))

/-- A cut of a list without `c` is where `c` was taken out, or lies between two neighbours of an
old list and away from the slots that `c` was held in. -/
theorem cut_of_erase (h : t.Linked kids) {front back front' back' : List NodeId}
    (hk : kids p = front ++ c :: back) (hq : (kids q).erase c = front' ++ back') :
    (q = p ∧ front' = front ∧ back' = back) ∨
      ∃ f b, kids q = f ++ b ∧ lastOf f = lastOf front' ∧ firstOf b = firstOf back' ∧
        t.slot q (lastOf f) ≠ t.slot p (lastOf front) ∧
        t.slot q (firstOf b) ≠ t.slot p (firstOf back) := by
  have hk' : kids p = (front ++ [c]) ++ back := by simp [hk]
  rw [h.erase_eq hk] at hq
  by_cases hqp : q = p
  · subst hqp
    rw [if_pos rfl] at hq
    rcases cut_without (c := c) hq with ⟨rfl, rfl⟩ | ⟨f, b, hfb, hf, hb, hne, hne'⟩
    · exact .inl ⟨rfl, rfl, rfl⟩
    · rw [← hk] at hfb
      exact .inr ⟨f, b, hfb, hf, hb, fun hs => hne (h.slot_lastOf_injective hfb hk hs).2,
        fun hs => hne' (h.slot_firstOf_injective hfb hk' hs).2⟩
  · rw [if_neg hqp] at hq
    exact .inr ⟨front', back', hq, rfl, rfl, fun hs => hqp (h.slot_lastOf_injective hq hk hs).1,
      fun hs => hqp (h.slot_firstOf_injective hq hk' hs).1⟩

/-- Taking a node out drops it from its list, and nothing else changes. -/
theorem detach (h : t.Linked kids) : (t.detach c).Linked fun p => (kids p).erase c := by
  by_cases hc : t.parent? c = none
  · have hk : (fun p => (kids p).erase c) = kids := by
      funext p
      apply List.erase_of_not_mem
      simp [h.mem_iff, hc]
    rwa [hk, h.detach_of_loose hc]
  obtain ⟨p, hp⟩ := Option.ne_none_iff_exists'.mp hc
  have hcp : t.contains p := h.contains_parent hp
  obtain ⟨front, back, hk⟩ := List.append_of_mem (h.mem_iff.mpr hp)
  have hk' : kids p = (front ++ [c]) ++ back := by simp [hk]
  obtain ⟨n, hn, hnp, hprev, hnext⟩ := h.links_of_mem hk
  -- The node is in no list that is left, so it is beside none of their cuts.
  have hcut : ∀ {q front' back'}, (kids q).erase c = front' ++ back' →
      lastOf front' ≠ c ∧ firstOf back' ≠ c := fun {q _ _} hq =>
    ends_ne (h.ne_absent (contains_of_parent? hp)) (hq ▸ (h.nodup q).not_mem_erase)
  constructor
  case absent => rw [← contains_eq_false_iff, contains_detach, h.not_contains_absent]
  case mem_iff =>
    intro q d
    rw [(h.nodup q).mem_erase_iff, parent?_detach, h.mem_iff]
    by_cases hd : d = c <;> simp [hd]
  case contains_parent =>
    intro q d hd
    rw [parent?_detach] at hd
    rw [contains_detach]
    split at hd
    · simp at hd
    · exact h.contains_parent hd
  case nodup => exact fun q => (h.nodup q).erase c
  -- The cut is where the node stood, or no link beside it has changed.
  case after =>
    intro q front' back' hq hcuts
    rw [contains_detach] at hq
    rcases h.cut_of_erase hk hcuts with ⟨rfl, rfl, rfl⟩ | ⟨f, b, hfb, hf, hb, hs, -⟩
    · rw [← hprev, ← hnext, ← hnp]
      exact after_detach_previous hn (by rwa [hnp]) (by rw [hprev]; exact (hcut hcuts).1)
    · rw [after_detach_of_ne hn (hcut hcuts).1 (by rwa [hnp, hprev, ← hf]), ← hf, ← hb]
      exact h.after hq hfb
  case before =>
    intro q front' back' hq hcuts
    rw [contains_detach] at hq
    rcases h.cut_of_erase hk hcuts with ⟨rfl, rfl, rfl⟩ | ⟨f, b, hfb, hf, hb, -, hs⟩
    · rw [← hprev, ← hnext, ← hnp]
      exact before_detach_next hn (by rwa [hnp]) (by rw [hnext]; exact (hcut hcuts).2)
    · rw [before_detach_of_ne hn (hcut hcuts).2 (by rwa [hnp, hnext, ← hb]), ← hf, ← hb]
      exact h.before hq hfb
  case loose =>
    intro d q hd hd'
    rw [contains_detach] at hd
    rw [parent?_detach] at hd'
    by_cases hdc : d = c
    · rw [hdc]
      exact after_detach_self hn
    · rw [if_neg hdc] at hd'
      rw [after_detach_of_ne hn hdc, before_detach_of_ne hn hdc]
      · exact h.loose q hd hd'
      · rw [hnp, hnext]
        exact (h.slot_ne_of_loose hd hd' hk' q).2
      · rw [hnp, hprev]
        exact (h.slot_ne_of_loose hd hd' hk q).1

end Linked

def placed (p a b : NodeId) (n : Node) : Node := { n with parent := p, previous := a, next := b }

def splice (t : Tree) (p a c b : NodeId) : Tree :=
  ((t.update c (placed p a b)).setAfter p a c).setBefore p c b

section Splice

variable {a b : NodeId}

@[simp] theorem contains_splice : (t.splice p a c b).contains d = t.contains d := by
  simp [splice]

@[simp] theorem size_splice : (t.splice p a c b).size = t.size := by
  simp [splice]

theorem parent?_splice (hc : t.contains c) (hp : p ≠ .absent) :
    (t.splice p a c b).parent? d = if d = c then some p else t.parent? d := by
  obtain ⟨n, hn⟩ := (t.contains_iff c).mp hc
  rw [splice, parent?_setBefore, parent?_setAfter]
  by_cases hd : d = c
  · simp [parent?, get?_update, hd, hn, placed, hp]
  · simp [parent?, get?_update, hd]

@[simp] theorem content?_splice : (t.splice p a c b).content? d = t.content? d := by
  rw [splice, content?_setBefore, content?_setAfter]
  simp only [content?, get?_update]
  split
  · simp [placed, Function.comp_def]
  · rfl

theorem exists_splice (t : Tree) (p c : NodeId) (reference : Option NodeId) :
    ∃ a b, t.attach p c reference = t.splice p a c b := by
  cases reference with
  | none => exact ⟨_, _, rfl⟩
  | some r => exact ⟨_, _, rfl⟩

@[simp] theorem size_attach {reference : Option NodeId} :
    (t.attach p c reference).size = t.size := by
  obtain ⟨a, b, he⟩ := t.exists_splice p c reference
  rw [he, size_splice]

@[simp] theorem content?_attach {reference : Option NodeId} :
    (t.attach p c reference).content? d = t.content? d := by
  obtain ⟨a, b, he⟩ := t.exists_splice p c reference
  rw [he, content?_splice]

theorem after_splice_self (hc : t.contains c) (hs : t.slot q c ≠ t.slot p a) :
    (t.splice p a c b).after q c = b := by
  obtain ⟨n, hn⟩ := (t.contains_iff c).mp hc
  rw [splice, after_setBefore, after_setAfter_of_ne _ _ _ _ _ _ (by simpa using hs),
    after_update_self _ _ _ hn]
  rfl

theorem before_splice_self (hc : t.contains c) (hs : t.slot q c ≠ t.slot p b) :
    (t.splice p a c b).before q c = a := by
  obtain ⟨n, hn⟩ := (t.contains_iff c).mp hc
  rw [splice, before_setBefore_of_ne _ _ _ _ _ _ (by simpa using hs), before_setAfter,
    before_update_self _ _ _ hn]
  rfl

theorem after_splice_left (hp : t.contains p) : (t.splice p a c b).after p a = c := by
  rw [splice, after_setBefore, after_setAfter_self _ _ _ _ (by simpa using hp)]

theorem before_splice_right (hp : t.contains p) : (t.splice p a c b).before p b = c := by
  rw [splice, before_setBefore_self _ _ _ _ (by simpa using hp)]

theorem after_splice_of_ne (hd : d ≠ c) (hs : t.slot q d ≠ t.slot p a) :
    (t.splice p a c b).after q d = t.after q d := by
  have hf : ∀ m, (placed p a b m).firstChild = m.firstChild := fun _ => rfl
  rw [splice, after_setBefore, after_setAfter_of_ne _ _ _ _ _ _ (by simpa using hs),
    after_update_of_ne _ _ _ _ hf hd]

theorem before_splice_of_ne (hd : d ≠ c) (hs : t.slot q d ≠ t.slot p b) :
    (t.splice p a c b).before q d = t.before q d := by
  have hf : ∀ m, (placed p a b m).lastChild = m.lastChild := fun _ => rfl
  rw [splice, before_setBefore_of_ne _ _ _ _ _ _ (by simpa using hs), before_setAfter,
    before_update_of_ne _ _ _ _ hf hd]

end Splice

namespace Linked

theorem attach_eq (h : t.Linked kids) (hp : t.contains p) {front back : List NodeId}
    (hk : kids p = front ++ back) :
    t.attach p c back.head? = t.splice p (lastOf front) c (firstOf back) := by
  have hb := h.before hp hk
  obtain ⟨n, hn⟩ := (t.contains_iff p).mp hp
  cases back with
  | nil =>
    have hl : n.lastChild = lastOf front := by
      rw [← hb]
      simp [Tree.before, h.absent, hn]
    simp only [attach, List.head?_nil, hn, Option.map_some, Option.getD_some, hl]
    rfl
  | cons e rest =>
    obtain ⟨m, hm, -, hprev, -⟩ := h.links_of_mem hk
    simp only [attach, List.head?_cons, hm, Option.map_some, Option.getD_some, hprev]
    rfl

/-- A cut of a list with `c` is next to `c`, or lies between two neighbours of an old list and away
from the slots that `c` is put into. -/
theorem cut_of_update (h : t.Linked kids) {front back front' back' : List NodeId}
    (hk : kids p = front ++ back)
    (hq : Function.update kids p (front ++ c :: back) q = front' ++ back') :
    (q = p ∧ front' = front ∧ back' = c :: back) ∨ (q = p ∧ front' = front ++ [c] ∧ back' = back) ∨
      ∃ f b, kids q = f ++ b ∧ lastOf f = lastOf front' ∧ firstOf b = firstOf back' ∧
        t.slot q (lastOf f) ≠ t.slot p (lastOf front) ∧
        t.slot q (firstOf b) ≠ t.slot p (firstOf back) := by
  by_cases hqp : q = p
  · subst hqp
    rw [Function.update_self] at hq
    rcases cut_with hq with ⟨rfl, rfl⟩ | ⟨rfl, rfl⟩ | ⟨f, b, hfb, hf, hb, hne, hne'⟩
    · exact .inl ⟨rfl, rfl, rfl⟩
    · exact .inr (.inl ⟨rfl, rfl, rfl⟩)
    · rw [← hk] at hfb
      exact .inr (.inr ⟨f, b, hfb, hf, hb, fun hs => hne (h.slot_lastOf_injective hfb hk hs).2,
        fun hs => hne' (h.slot_firstOf_injective hfb hk hs).2⟩)
  · rw [Function.update_of_ne hqp] at hq
    exact .inr (.inr ⟨front', back', hq, rfl, rfl,
      fun hs => hqp (h.slot_lastOf_injective hq hk hs).1,
      fun hs => hqp (h.slot_firstOf_injective hq hk hs).1⟩)

/-- Putting a free node between the two parts of a list makes it a member of the list there. -/
theorem splice (h : t.Linked kids) (hp : t.contains p) (hc : t.contains c)
    (hfree : t.parent? c = none) {front back : List NodeId} (hk : kids p = front ++ back) :
    (t.splice p (lastOf front) c (firstOf back)).Linked
      (Function.update kids p (front ++ c :: back)) := by
  have hpa : p ≠ .absent := h.ne_absent hp
  have hloose := h.slot_ne_of_loose hc hfree hk
  have hnot : ∀ q, c ∉ kids q := fun q => by simp [h.mem_iff, hfree]
  constructor
  case absent => rw [← contains_eq_false_iff, contains_splice, h.not_contains_absent]
  case mem_iff =>
    intro q d
    rw [parent?_splice hc hpa]
    by_cases hq : q = p
    · subst hq
      rw [Function.update_self, List.mem_append, List.mem_cons, or_left_comm, ← List.mem_append,
        ← hk, h.mem_iff]
      by_cases hd : d = c <;> simp [hd]
    · rw [Function.update_of_ne hq, h.mem_iff]
      by_cases hd : d = c <;> simp [hd, hfree, Ne.symm hq]
  case contains_parent =>
    intro q d hd
    rw [parent?_splice hc hpa] at hd
    rw [contains_splice]
    split at hd
    · rwa [← Option.some.inj hd]
    · exact h.contains_parent hd
  case nodup =>
    intro q
    by_cases hq : q = p
    · subst hq
      rw [Function.update_self, List.nodup_middle, ← hk]
      exact List.nodup_cons.mpr ⟨hnot q, h.nodup q⟩
    · rw [Function.update_of_ne hq]
      exact h.nodup q
  case after =>
    intro q front' back' hq hcuts
    rw [contains_splice] at hq
    -- The cut is before `c`, behind it, or in an old list where no link has changed.
    rcases h.cut_of_update hk hcuts with ⟨rfl, rfl, rfl⟩ | ⟨rfl, rfl, rfl⟩ |
      ⟨f, b, hfb, hf, hb, hs, -⟩
    · rw [after_splice_left hp, firstOf_cons]
    · rw [lastOf_concat, after_splice_self hc (hloose q).1]
    · have hne := (ends_ne (h.ne_absent hc) (hfb ▸ hnot q)).1
      rw [← hf, ← hb, after_splice_of_ne hne hs]
      exact h.after hq hfb
  case before =>
    intro q front' back' hq hcuts
    rw [contains_splice] at hq
    rcases h.cut_of_update hk hcuts with ⟨rfl, rfl, rfl⟩ | ⟨rfl, rfl, rfl⟩ |
      ⟨f, b, hfb, hf, hb, -, hs⟩
    · rw [firstOf_cons, before_splice_self hc (hloose q).2]
    · rw [before_splice_right hp, lastOf_concat]
    · have hne := (ends_ne (h.ne_absent hc) (hfb ▸ hnot q)).2
      rw [← hf, ← hb, before_splice_of_ne hne hs]
      exact h.before hq hfb
  case loose =>
    intro d q hd hd'
    rw [contains_splice] at hd
    rw [parent?_splice hc hpa] at hd'
    have hdc : d ≠ c := by
      rintro rfl
      simp at hd'
    rw [if_neg hdc] at hd'
    have hs := h.slot_ne_of_loose hd hd' hk q
    rw [after_splice_of_ne hdc hs.1, before_splice_of_ne hdc hs.2]
    exact h.loose q hd hd'

end Linked

end HeadAudit.Live.Tree

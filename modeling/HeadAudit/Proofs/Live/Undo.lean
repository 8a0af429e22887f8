import HeadAudit.Proofs.Live.Insertion
import HeadAudit.Proofs.Live.Removal

namespace HeadAudit.Live.Tree

open NodeId Relation

def next? (t : Tree) (id : NodeId) : Option NodeId :=
  ((t.get? id).map (·.next)).filter (· ≠ .absent)

/-- What is taken out and what is put in comes back to the same tree by the opposite edit. -/
structure Undoes (t : Tree) (p c : NodeId) : Prop where
  removal : c ∈ t.children p →
    ∃ u, t.removeChild p c = .ok u ∧ u.insertBefore p c (t.next? c) = .ok t
  insertion : ∀ reference u, t.parent? c = none → t.insertBefore p c reference = .ok u →
    u.removeChild p c = .ok t

variable {t u : Tree} {kids : NodeId → List NodeId} {p c : NodeId} {front back : List NodeId}
  {reference : Option NodeId}

theorem Linked.next?_eq (h : t.Linked kids) (hk : kids p = front ++ c :: back) :
    t.next? c = back.head? := by
  obtain ⟨n, hn, -, -, hnext⟩ := h.links_of_mem hk
  rw [next?, hn, Option.map_some, hnext]
  cases back with
  | nil => rfl
  | cons d back =>
    have hd : d ≠ .absent := h.ne_absent (h.contains_of_mem (p := p) (by simp [hk]))
    rw [firstOf_cons, List.head?_cons, Option.filter_some, if_pos (decide_eq_true hd)]

theorem Linked.update_erase (h : t.Linked kids) (hk : kids p = front ++ c :: back) :
    Function.update (fun q => (kids q).erase c) p (front ++ c :: back) = kids := by
  funext q
  by_cases hq : q = p
  · rw [hq, Function.update_self, hk]
  · rw [Function.update_of_ne hq, h.erase_eq hk, if_neg hq]

theorem erase_update (hk : kids p = front ++ back) (hc : ∀ q, c ∉ kids q) :
    (fun q => (Function.update kids p (front ++ c :: back) q).erase c) = kids := by
  funext q
  by_cases hq : q = p
  · have hfront : c ∉ front := fun hm => hc p (hk ▸ List.mem_append_left back hm)
    rw [hq, Function.update_self, List.erase_append_right _ hfront, List.erase_cons_head, hk]
  · rw [Function.update_of_ne hq, List.erase_of_not_mem (hc q)]

/-- A child that was taken out goes back between the siblings that it had. -/
theorem Forest.insertBefore_detach (h : t.Forest t.children)
    (hk : t.children p = front ++ c :: back) :
    (t.detach c).insertBefore p c back.head? = .ok t := by
  have hc : c ∈ t.children p := by simp [hk]
  obtain ⟨hroot, hno⟩ := h.not_above_of_mem hc
  have hu := h.detach (c := c)
  have hp : (t.detach c).contains p := by
    rw [contains_detach, h.linked.contains_parent (h.linked.mem_iff.mp hc)]
  have hcc : (t.detach c).contains c := by rw [contains_detach, h.linked.contains_of_mem hc]
  have hnone : (t.detach c).parent? c = none := by rw [parent?_detach, if_pos rfl]
  have hno' : ¬ ReflTransGen (t.detach c).Under p c := fun hup => hno (above_of_detach hup)
  have hk' : (t.children p).erase c = front ++ back := by rw [h.linked.erase_eq hk, if_pos rfl]
  have hok : (t.detach c).insertError? p c back.head? = none := by
    refine hu.insertError?_eq_none_iff.mpr ⟨hp, hcc, hroot, hno', fun r hr => ?_⟩
    rw [← hu.linked.mem_iff, hk']
    exact List.mem_append_right front (List.mem_of_mem_head? hr)
  have hne : back.head? ≠ some c := fun he =>
    (not_mem_of_cut (h.linked.nodup p) hk).2 (List.mem_of_mem_head? he)
  have hback := hu.splice hp hcc hroot hnone hno' hk'
  rw [h.linked.update_erase hk, ← hu.linked.attach_eq hp hk'] at hback
  have hsame : (t.detach c).attach p c back.head? = t := h.linked.ext hback.linked (by simp)
  rw [insertBefore_eq_ok_iff, if_neg hne, hu.linked.detach_of_loose hnone, hsame]
  exact ⟨hok, rfl⟩

/-- A node that stood nowhere leaves no trace when it is taken out again. -/
theorem Forest.removeChild_insertBefore (h : t.Forest t.children) (hnone : t.parent? c = none)
    (hu : t.insertBefore p c reference = .ok u) : u.removeChild p c = .ok t := by
  obtain ⟨hok, hu⟩ := insertBefore_eq_ok_iff.mp hu
  obtain ⟨hp, hc, hroot, hno, href⟩ := h.insertError?_eq_none_iff.mp hok
  have hne : reference ≠ some c := fun he => by
    rw [href c he] at hnone
    cases hnone
  have hmem : ∀ q, c ∉ t.children q := fun q hq => by
    rw [h.linked.mem_iff.mp hq] at hnone
    cases hnone
  obtain ⟨front, back, hk, rfl, -⟩ :=
    exists_cut (c := c) fun r hr => h.linked.mem_iff.mpr (href r hr)
  rw [if_neg hne, h.linked.detach_of_loose hnone, h.linked.attach_eq hp hk] at hu
  have hf := h.splice hp hc hroot hnone hno hk
  rw [← hu] at hf
  have hparent : u.parent? c = some p := by
    rw [hu, parent?_splice hc (h.linked.ne_absent hp), if_pos rfl]
  obtain ⟨n, hn, hnp, -⟩ := parent?_eq_some_iff.mp hparent
  have hback := hf.detach (c := c)
  rw [erase_update hk hmem] at hback
  rw [removeChild_eq_ok_iff]
  exact ⟨⟨n, hn, hnp⟩, (h.linked.ext hback.linked (by simp [hu])).symm⟩

theorem Forest.undoes (h : t.Forest t.children) (p c : NodeId) : t.Undoes p c := by
  constructor
  case removal =>
    intro hc
    obtain ⟨front, back, hk⟩ := List.append_of_mem hc
    refine ⟨t.detach c, removeChild_eq_ok_iff.mpr ⟨h.parent_eq_iff.mpr (.inl hc), rfl⟩, ?_⟩
    rw [h.linked.next?_eq hk]
    exact h.insertBefore_detach hk
  case insertion => exact fun _ _ => h.removeChild_insertBefore

/-- Whatever was done to an empty tree before, a removal and an insertion can be taken back. -/
theorem undoes_of_run (edits : List Edit) (hs : (Tree.empty.run edits).size < 2 ^ 32 - 1)
    (p c : NodeId) : (Tree.empty.run edits).Undoes p c :=
  (forest_of_run edits hs).undoes p c

/-- The second of three items, with something in it, is taken out and put back. -/
theorem undoes_of_run_nestedEdits :
    (Tree.empty.run nestedEdits).size < 2 ^ 32 - 1 ∧
      (Tree.empty.run nestedEdits).children ⟨1⟩ = [⟨2⟩, ⟨3⟩, ⟨4⟩] ∧
      ∃ u, (Tree.empty.run nestedEdits).removeChild ⟨1⟩ ⟨3⟩ = .ok u ∧
        u ≠ Tree.empty.run nestedEdits ∧
        u.insertBefore ⟨1⟩ ⟨3⟩ (some ⟨4⟩) = .ok (Tree.empty.run nestedEdits) := by
  have hs : (Tree.empty.run nestedEdits).size < 2 ^ 32 - 1 := by decide +kernel
  have hkids : (Tree.empty.run nestedEdits).children ⟨1⟩ = [⟨2⟩, ⟨3⟩, ⟨4⟩] := by decide +kernel
  have hnext : (Tree.empty.run nestedEdits).next? ⟨3⟩ = some ⟨4⟩ := by decide +kernel
  obtain ⟨u, hu, hback⟩ :=
    (undoes_of_run nestedEdits hs ⟨1⟩ ⟨3⟩).removal (by rw [hkids]; decide)
  have hne : u ≠ Tree.empty.run nestedEdits := by
    rw [(removeChild_eq_ok_iff.mp hu).2]
    decide +kernel
  rw [hnext] at hback
  exact ⟨hs, hkids, u, hu, hne, hback⟩

end HeadAudit.Live.Tree

import HeadAudit.Proofs.Live.Edits

namespace HeadAudit.Live.Tree

open Relation

structure Insertable (t : Tree) (p c : NodeId) (reference : Option NodeId) : Prop where
  contains_parent : t.contains p
  contains_child : t.contains c
  ne_root : c ≠ .root
  not_above : ¬ ReflTransGen t.Under p c
  reference : ∀ r, reference = some r → t.contains r ∧ r ∈ t.children p

/-- The trees before and after a node came under a parent, before the reference or to the end. -/
structure Moved (t u : Tree) (p c : NodeId) (reference : Option NodeId) : Prop where
  parent : u.parent? c = some p
  children : ∃ front back, (t.children p).filter (· ≠ c) = front ++ back ∧
    back.head? = reference ∧ u.children p = front ++ c :: back
  former : ∀ q, q ≠ p → t.parent? c = some q → u.children q = (t.children q).filter (· ≠ c)
  children_of_ne : ∀ q, q ≠ p → t.parent? c ≠ some q → u.children q = t.children q
  parent_of_ne : ∀ d, d ≠ c → u.parent? d = t.parent? d
  content? : ∀ d, u.content? d = t.content? d
  size : u.size = t.size

variable {t : Tree} {p c d : NodeId} {reference : Option NodeId}

theorem Forest.insertable_iff (h : t.Forest t.children) :
    t.Insertable p c reference ↔ t.insertError? p c reference = none := by
  rw [h.insertError?_eq_none_iff]
  constructor
  · rintro ⟨hp, hc, hroot, hno, hr⟩
    exact ⟨hp, hc, hroot, hno, fun r he => h.linked.mem_iff.mp (hr r he).2⟩
  · rintro ⟨hp, hc, hroot, hno, hr⟩
    exact ⟨hp, hc, hroot, hno, fun r he =>
      ⟨contains_of_parent? (hr r he), h.linked.mem_iff.mpr (hr r he)⟩⟩

theorem parent?_attach (hc : t.contains c) (hp : p ≠ .absent) :
    (t.attach p c reference).parent? d = if d = c then some p else t.parent? d := by
  obtain ⟨a, b, he⟩ := t.exists_splice p c reference
  rw [he, parent?_splice hc hp]

/-- An allowed insertion moves the node, whatever its old place and the reference have to do with
each other. -/
theorem Forest.moved (h : t.Forest t.children) (hi : t.Insertable p c reference)
    (hne : reference ≠ some c) :
    Moved t ((t.detach c).attach p c reference) p c reference := by
  have hok := h.insertable_iff.mp hi
  have hc : (t.detach c).contains c := by rw [contains_detach, hi.contains_child]
  have hp : p ≠ .absent := h.linked.ne_absent hi.contains_parent
  have hkids := funext (h.attach hok hne).linked.children_eq
  have hwithout (q : NodeId) : (t.children q).erase c = (t.children q).filter (· ≠ c) := by
    rw [(h.linked.nodup q).erase_eq_filter]
    exact List.filter_congr fun d _ => Bool.eq_iff_iff.mpr (by simp)
  -- All other lists lose the node if they had it, and nothing else.
  have hothers : ∀ q, q ≠ p →
      ((t.detach c).attach p c reference).children q = (t.children q).filter (· ≠ c) := by
    intro q hq
    rw [hkids, Function.update_of_ne hq, hwithout]
  constructor
  case parent => rw [parent?_attach hc hp, if_pos rfl]
  case children =>
    have hr : ∀ r, reference = some r → r ∈ (t.children p).filter (· ≠ c) := by
      rintro r rfl
      rw [List.mem_filter, decide_eq_true_iff]
      exact ⟨(hi.reference r rfl).2, fun he => hne (by rw [he])⟩
    obtain ⟨front, back, hk, hb, hplaced⟩ := exists_cut (c := c) hr
    refine ⟨front, back, hk, hb.symm, ?_⟩
    rw [hkids, Function.update_self, hwithout, hplaced]
  case former => exact fun q hq _ => hothers q hq
  case children_of_ne =>
    intro q hq hn
    rw [hothers q hq, List.filter_eq_self]
    intro d hd
    have hdc : d ≠ c := by
      rintro rfl
      exact hn (h.linked.mem_iff.mp hd)
    exact decide_eq_true hdc
  case parent_of_ne =>
    intro d hd
    rw [parent?_attach hc hp, if_neg hd, parent?_detach, if_neg hd]
  case content? => simp
  case size => simp

/-- What comes of a call that is to put a node under a parent. -/
structure Inserts (t : Tree) (p c : NodeId) (reference : Option NodeId) : Prop where
  succeeds_iff : (∃ u, t.insertBefore p c reference = .ok u) ↔ t.Insertable p c reference
  refused : ¬ t.Insertable p c reference → t.apply (.insertBefore p c reference) = t
  before_itself : reference = some c → t.apply (.insertBefore p c reference) = t
  moved : ∀ u, reference ≠ some c → t.insertBefore p c reference = .ok u →
    Moved t u p c reference

theorem Forest.inserts (h : t.Forest t.children) (p c : NodeId) (reference : Option NodeId) :
    t.Inserts p c reference := by
  have hsucceeds : (∃ u, t.insertBefore p c reference = .ok u) ↔ t.Insertable p c reference := by
    simp only [insertBefore_eq_ok_iff, exists_and_left, exists_eq, and_true, h.insertable_iff]
  constructor
  case succeeds_iff => exact hsucceeds
  case refused =>
    intro hno
    rw [apply_insertBefore]
    cases hu : t.insertBefore p c reference with
    | error e => rfl
    | ok u => exact absurd (hsucceeds.mp ⟨u, hu⟩) hno
  case before_itself =>
    intro hself
    rw [apply_insertBefore]
    cases hu : t.insertBefore p c reference with
    | error e => rfl
    | ok u =>
      obtain ⟨-, rfl⟩ := insertBefore_eq_ok_iff.mp hu
      rw [if_pos hself]
      rfl
  case moved =>
    intro u hne hu
    obtain ⟨hok, rfl⟩ := insertBefore_eq_ok_iff.mp hu
    rw [if_neg hne]
    exact h.moved (h.insertable_iff.mpr hok) hne

theorem Forest.exists_append (h : t.Forest t.children) (hp : t.contains p)
    (hs : t.size < NodeId.absent.index) (content : Content) :
    ∃ u, (t.create content).1.appendChild p ⟨t.size⟩ = .ok u ∧
      u.Forest (Function.update t.children p (t.children p ++ [⟨t.size⟩])) ∧
      (∀ d, u.content? d = if d = ⟨t.size⟩ then some content else t.content? d) ∧
      u.size = t.size + 1 := by
  have hfresh : t.contains ⟨t.size⟩ = false := not_contains_fresh
  have hne : ∀ {d}, t.contains d → d ≠ ⟨t.size⟩ := fun hd => ne_of_contains hd hfresh
  have hc : (t.create content).1.Forest t.children := h.create hs
  -- The new node is not above `p`: all that stands above a node was there before.
  have hno : ¬ ReflTransGen (t.create content).1.Under p ⟨t.size⟩ := fun hup =>
    hne (h.linked.contains_of_above hp (above_of_create hup)) rfl
  have hok : (t.create content).1.insertError? p ⟨t.size⟩ none = none := by
    refine hc.insertError?_eq_none_iff.mpr ⟨?_, ?_, (hne h.contains_root).symm, hno, ?_⟩
    · rw [contains_create, hp, Bool.or_true]
    · rw [contains_create, beq_self_eq_true, Bool.true_or]
    · simp
  have hf := hc.attach hok (by simp)
  have herase : ∀ q, (t.children q).erase ⟨t.size⟩ = t.children q := fun q =>
    List.erase_of_not_mem fun hm => hne (h.linked.contains_of_mem hm) rfl
  simp only [herase, placedBefore] at hf
  exact ⟨_, insertBefore_eq_ok_iff.mpr ⟨hok, rfl⟩, hf, by simp [content?_create], by simp⟩

/-- Whatever was done to an empty tree before, a node goes where it is put, or nowhere at all; to
append it is to put it before nothing. -/
theorem inserts_of_run (edits : List Edit) (hs : (Tree.empty.run edits).size < 2 ^ 32 - 1)
    (p c : NodeId) (reference : Option NodeId) :
    (Tree.empty.run edits).Inserts p c reference ∧
      (Tree.empty.run edits).appendChild p c = (Tree.empty.run edits).insertBefore p c none :=
  ⟨(forest_of_changes (Tree.empty.changes_run edits) forest_empty.children hs.le).inserts
    p c reference, rfl⟩

def listEdits : List Edit :=
  [.createElement "ul" [], .createElement "li" [], .createElement "li" [], .createElement "li" [],
    .appendChild .root ⟨1⟩, .appendChild ⟨1⟩ ⟨2⟩, .appendChild ⟨1⟩ ⟨3⟩, .appendChild ⟨1⟩ ⟨4⟩]

theorem inserts_of_run_listEdits :
    (Tree.empty.run listEdits).size < 2 ^ 32 - 1 ∧
      ∃ u, (Tree.empty.run listEdits).insertBefore ⟨1⟩ ⟨4⟩ (some ⟨2⟩) = .ok u ∧
        Moved (Tree.empty.run listEdits) u ⟨1⟩ ⟨4⟩ (some ⟨2⟩) ∧
        u.children ⟨1⟩ = [⟨4⟩, ⟨2⟩, ⟨3⟩] := by
  have hs : (Tree.empty.run listEdits).size < 2 ^ 32 - 1 := by decide +kernel
  have hi := (inserts_of_run listEdits hs ⟨1⟩ ⟨4⟩ (some ⟨2⟩)).1
  have hu : (Tree.empty.run listEdits).insertBefore ⟨1⟩ ⟨4⟩ (some ⟨2⟩) =
      .ok (Tree.empty.run (listEdits ++ [.insertBefore ⟨1⟩ ⟨4⟩ (some ⟨2⟩)])) := by decide +kernel
  exact ⟨hs, _, hu, hi.moved _ nofun hu, by decide +kernel⟩

end HeadAudit.Live.Tree

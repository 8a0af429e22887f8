import HeadAudit.Proofs.Live.Edits
import HeadAudit.Proofs.Parity.Roots

namespace HeadAudit.Live.Tree

open NodeId Relation

def appendAll (t : Tree) (parent : NodeId) (ids : List NodeId) : Except EditError Tree :=
  ids.foldlM (fun t id => t.appendChild parent id) t

variable {t u v : Tree} {p c d x : NodeId} {ids more : List NodeId}

theorem Forest.insertError?_of_mem (h : t.Forest t.children) (hc : c ∈ t.children p) :
    t.insertError? p c none = none := by
  obtain ⟨hroot, hno⟩ := h.not_above_of_mem hc
  exact h.insertError?_eq_none_iff.mpr ⟨h.linked.contains_parent (h.linked.mem_iff.mp hc),
    h.linked.contains_of_mem hc, hroot, hno, nofun⟩

theorem Forest.appendChild (h : t.Forest t.children) (hc : c ∈ t.children p) :
    ∃ u, t.appendChild p c = .ok u ∧ Regrouped t u p ((t.children p).erase c ++ [c]) := by
  have hok := h.insertError?_of_mem hc
  have hne : (none : Option NodeId) ≠ some c := nofun
  have hf := h.attach hok hne
  refine ⟨(t.detach c).attach p c none, ?_, hf.children, by simp, by simp, ?_⟩
  · rw [Tree.appendChild, insertBefore_eq_ok_iff, if_neg hne]
    exact ⟨hok, rfl⟩
  · rw [show ((t.detach c).attach p c none).children = _ from funext hf.linked.children_eq]
    funext q
    by_cases hq : q = p
    · rw [hq, Function.update_self, Function.update_self, placedBefore]
    · have hn : c ∉ t.children q := fun hm => hq (h.linked.parent_unique hm hc)
      rw [Function.update_of_ne hq, Function.update_of_ne hq, List.erase_of_not_mem hn]

theorem filter_erase_append (hn : ids.Nodup) (hc : c ∉ more) :
    (ids.erase c ++ [c]).filter (· ∉ more) ++ more = ids.filter (· ∉ c :: more) ++ c :: more := by
  have hf : (ids.erase c).filter (· ∉ more) = ids.filter (· ∉ c :: more) := by
    rw [hn.erase_eq_filter, List.filter_filter]
    apply List.filter_congr
    intro d _
    by_cases hd : d = c <;> simp [hd, hc]
  rw [List.filter_append, hf, List.filter_singleton, decide_eq_true hc]
  simp

/-- Children that are appended again in some order follow all others in that order. -/
theorem Forest.appendAll (h : t.Forest t.children) (hn : ids.Nodup)
    (hs : ∀ c ∈ ids, c ∈ t.children p) :
    ∃ u, t.appendAll p ids = .ok u ∧
      Regrouped t u p ((t.children p).filter (· ∉ ids) ++ ids) := by
  induction ids generalizing t with
  | nil => exact ⟨t, rfl, h, rfl, fun _ => rfl, by simp⟩
  | cons c ids ih =>
    obtain ⟨hc, hn⟩ := List.nodup_cons.mp hn
    obtain ⟨u, hu, hru⟩ := h.appendChild (hs c List.mem_cons_self)
    have hup : u.children p = (t.children p).erase c ++ [c] := by
      rw [hru.children, Function.update_self]
    have hmem : ∀ d ∈ ids, d ∈ u.children p := fun d hd => by
      have hdc : d ≠ c := fun he => hc (he ▸ hd)
      rw [hup, List.mem_append, List.mem_erase_of_ne hdc]
      exact .inl (hs d (List.mem_cons_of_mem c hd))
    obtain ⟨v, hv, hrv⟩ := ih hru.forest hn hmem
    refine ⟨v, ?_, ?_⟩
    · rw [Tree.appendAll, List.foldlM_cons, hu]
      exact hv
    · rw [hup, filter_erase_append (h.linked.nodup p) hc] at hrv
      exact hru.trans hrv

section Views

structure SameNode (t u : Tree) (d : NodeId) : Prop where
  isElement : u.isElement d = t.isElement d
  tagName : u.adapter.tagName d = t.adapter.tagName d
  attr : ∀ name, u.adapter.attr d name = t.adapter.attr d name
  attrNames : u.adapter.attrNames d = t.adapter.attrNames d
  text? : (u.get? d).bind Node.text? = (t.get? d).bind Node.text?

theorem sameNode (h : u.content? d = t.content? d) : SameNode t u d := by
  rcases get?_of_content?_eq h with ⟨hu, ht⟩ | ⟨n, m, hu, ht, hc⟩
  · constructor <;> simp [Tree.isElement, Tree.adapter, hu, ht]
  · constructor <;>
      simp [Tree.isElement, Tree.adapter, hu, ht, hc, Node.isElement, Node.tag?, Node.attrs,
        Node.text?]

def rank (t : Tree) (id : NodeId) : Nat := t.size - (t.lineage (t.size + 1) id).length

theorem lineage_succ {fuel : Nat} (h : (t.lineage fuel d).length < fuel) :
    t.lineage (fuel + 1) d = t.lineage fuel d := by
  induction fuel generalizing d with
  | zero => exact absurd h (Nat.not_lt_zero _)
  | succ fuel ih =>
    rw [lineage, lineage]
    rw [lineage] at h
    cases hp : t.parent? d with
    | none => rfl
    | some p =>
      rw [hp] at h
      dsimp only at h ⊢
      rw [ih (Nat.lt_of_succ_lt_succ h)]

theorem Forest.length_lineage_le (h : t.Forest t.children) (hd : t.contains d) (fuel : Nat) :
    (t.lineage fuel d).length ≤ t.size :=
  length_le_size (lineage_nodup h.grounded _ _) fun _ hm =>
    h.linked.contains_of_above hd (mem_lineage hm)

theorem Forest.rank_lt (h : t.Forest t.children) (hu : t.Under c p) : t.rank c < t.rank p := by
  have hc : t.lineage (t.size + 1) c = c :: t.lineage t.size p := by
    rw [lineage, show t.parent? c = some p from hu]
  have hle := h.length_lineage_le (contains_of_parent? hu) (t.size + 1)
  rw [hc, List.length_cons] at hle
  rw [rank, rank, hc, lineage_succ (by omega), List.length_cons]
  omega

variable (hf : t.Forest t.children) (h : Regrouped t u p ids)

include h

theorem Regrouped.adapter_children (hx : x ≠ p) :
    u.adapter.children x = t.adapter.children x := by
  change (if u.isElement x then (u.children x).filter u.isElement else []) =
    if t.isElement x then (t.children x).filter t.isElement else []
  rw [(sameNode (h.content? x)).isElement, h.children_of_ne hx,
    List.filter_congr fun c _ => (sameNode (h.content? c)).isElement]

theorem Regrouped.adapter_children_self (hp : t.isElement p) :
    u.adapter.children p = ids.filter t.isElement := by
  change (if u.isElement p then (u.children p).filter u.isElement else []) = _
  rw [(sameNode (h.content? p)).isElement, if_pos hp, h.children, Function.update_self,
    List.filter_congr fun c _ => (sameNode (h.content? c)).isElement]

theorem Regrouped.textContent (hx : x ≠ p) :
    u.adapter.textContent x = t.adapter.textContent x := by
  change (if u.isElement x then u.textContent x else "") =
    if t.isElement x then t.textContent x else ""
  rw [(sameNode (h.content? x)).isElement, Tree.textContent, Tree.textContent,
    h.children_of_ne hx, List.filterMap_congr fun c _ => (sameNode (h.content? c)).text?]

include hf

/-- All that stands below the parent looks the same. -/
theorem Regrouped.similar : Similar t.adapter u.adapter
    (fun x y => x = y ∧ TransGen t.Under x p) t.rank := by
  have hne : ∀ {x}, TransGen t.Under x p → x ≠ p := by
    rintro x hx rfl
    exact hf.grounded.irrefl x hx
  constructor
  case isElement =>
    rintro x _ ⟨rfl, -⟩
    exact (sameNode (h.content? x)).isElement.symm
  case tagName =>
    rintro x _ ⟨rfl, -⟩
    exact (sameNode (h.content? x)).tagName.symm
  case attr =>
    rintro x _ ⟨rfl, -⟩ name
    exact ((sameNode (h.content? x)).attr name).symm
  case attrNames =>
    rintro x _ ⟨rfl, -⟩
    exact (sameNode (h.content? x)).attrNames.symm
  case textContent =>
    rintro x _ ⟨rfl, hx⟩
    exact (h.textContent (hne hx)).symm
  case children =>
    rintro x _ ⟨rfl, hx⟩
    rw [h.adapter_children (hne hx), List.forall₂_same]
    intro c hc
    exact ⟨rfl, .head (hf.linked.mem_iff.mp (mem_adapter_children.mp hc).2.1) hx⟩
  case unique =>
    constructor
    · rintro x _ y ⟨rfl, -⟩ ⟨rfl, -⟩
      rfl
    · rintro x _ _ ⟨rfl, -⟩ ⟨rfl, -⟩
      rfl
  case rank_lt =>
    rintro x _ c ⟨rfl, -⟩ hc
    exact hf.rank_lt (hf.linked.mem_iff.mp (mem_adapter_children.mp hc).2.1)

end Views

end HeadAudit.Live.Tree

import Mathlib
import HeadAudit.Adapter.Basic

namespace HeadAudit.Adapter

open Relation

variable {ν : Type} {a : Adapter ν} {rank : ν → Nat} {p c x y : ν}

/-- `p` is the parent element of `c`. -/
def Under (a : Adapter ν) (c p : ν) : Prop := a.parent c = some p

/-- A parent ranks above its children, and nothing ranks above the height. -/
structure Ranked (a : Adapter ν) (rank : ν → Nat) : Prop where
  rank_lt : ∀ {c p}, a.Under c p → rank c < rank p
  rank_le : ∀ x, rank x ≤ a.height

theorem above_ascend (a : Adapter ν) (fuel : Nat) (c : ν) :
    ReflTransGen a.Under c (a.ascend fuel c) := by
  induction fuel generalizing c with
  | zero => exact .refl
  | succ fuel ih =>
    rw [ascend]
    cases hp : a.parent c with
    | none => exact .refl
    | some p => exact .head hp (ih p)

theorem Ranked.parent_ascend (h : a.Ranked rank) {fuel : Nat} (hf : a.height ≤ rank c + fuel) :
    a.parent (a.ascend fuel c) = none := by
  induction fuel generalizing c with
  | zero =>
    cases hp : a.parent c with
    | none => exact hp
    | some p =>
      have hlt := h.rank_lt hp
      have hle := h.rank_le p
      omega
  | succ fuel ih =>
    rw [ascend]
    cases hp : a.parent c with
    | none => exact hp
    | some p =>
      have hlt := h.rank_lt hp
      exact ih (by omega)

theorem Ranked.parent_root (h : a.Ranked rank) (c : ν) : a.parent (a.root c) = none :=
  h.parent_ascend (Nat.le_add_left _ _)

theorem under_rightUnique (a : Adapter ν) : Relator.RightUnique a.Under := by
  intro c p q hp hq
  exact Option.some.inj (Eq.trans (Eq.symm hp) hq)

theorem top_unique (hx : ReflTransGen a.Under c x) (hxtop : a.parent x = none)
    (hy : ReflTransGen a.Under c y) (hytop : a.parent y = none) : x = y := by
  have hend : ∀ {z w}, a.parent z = none → ReflTransGen a.Under z w → z = w := fun hz hzw => by
    rcases hzw.cases_head with he | ⟨q, hq, -⟩
    · exact he
    · exact absurd (hz.symm.trans hq) nofun
  rcases ReflTransGen.total_of_right_unique a.under_rightUnique hx hy with hxy | hyx
  · exact hend hxtop hxy
  · exact (hend hytop hyx).symm

theorem Ranked.root_eq (h : a.Ranked rank) (hp : a.Under c p) : a.root c = a.root p :=
  top_unique (a.above_ascend _ c) (h.parent_root c) (.head hp (a.above_ascend _ p))
    (h.parent_root p)

variable [DecidableEq ν]

/-- Elements with their parents, children and siblings as in a forest. -/
structure IsForest (a : Adapter ν) : Prop where
  isElement : ∀ {c p}, c ∈ a.children p → a.isElement p ∧ a.isElement c
  nodup : ∀ p, (a.children p).Nodup
  parent_iff : ∀ {c p}, a.isElement c → (a.parent c = some p ↔ c ∈ a.children p)
  siblings : ∀ {c p}, a.isElement c → a.parent c = some p →
    ∃ front back, a.children p = front ++ c :: back ∧ a.siblings c = front ++ back
  siblings_of_top : ∀ {c}, a.parent c = none → a.siblings c = []
  root_above : ∀ c, ReflTransGen a.Under c (a.root c)
  root_top : ∀ c, a.parent (a.root c) = none
  root_parent : ∀ {c p}, a.parent c = some p → a.root c = a.root p

theorem siblings_of_parent (hn : (a.children p).Nodup) (hc : c ∈ a.children p)
    (hp : a.parent c = some p) :
    ∃ front back, a.children p = front ++ c :: back ∧ a.siblings c = front ++ back := by
  obtain ⟨front, back, hk⟩ := List.append_of_mem hc
  rw [hk, List.nodup_middle, List.nodup_cons, List.mem_append, not_or] at hn
  obtain ⟨⟨hfront, hback⟩, -⟩ := hn
  have hkeep : ∀ {xs : List ν}, c ∉ xs → xs.filter (· ≠ c) = xs := fun hnot => by
    rw [List.filter_eq_self]
    exact fun d hd => decide_eq_true fun he => hnot (he ▸ hd)
  refine ⟨front, back, hk, ?_⟩
  rw [Adapter.siblings, hp]
  dsimp only
  rw [hk, List.filter_append, List.filter_cons_of_neg (by simp), hkeep hfront, hkeep hback]

/-- All is said by the children, the parents and the length of the ways up. -/
theorem Ranked.isForest (h : a.Ranked rank)
    (he : ∀ {c p}, c ∈ a.children p → a.isElement p ∧ a.isElement c)
    (hn : ∀ p, (a.children p).Nodup)
    (hp : ∀ {c p}, a.isElement c → (a.parent c = some p ↔ c ∈ a.children p)) : a.IsForest where
  isElement := he
  nodup := hn
  parent_iff := hp
  siblings := fun hc hcp => siblings_of_parent (hn _) ((hp hc).mp hcp) hcp
  siblings_of_top := fun hc => by rw [Adapter.siblings, hc]
  root_above := a.above_ascend _
  root_top := h.parent_root
  root_parent := h.root_eq

end HeadAudit.Adapter

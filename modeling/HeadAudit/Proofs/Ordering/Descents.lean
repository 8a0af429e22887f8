import Mathlib
import HeadAudit.Ordering

namespace HeadAudit.Ordering

open List

variable {ν : Type} {ws : List (Weighted ν)} {i : Nat} {v : Violation ν}

theorem mem_violationsFrom :
    v ∈ violationsFrom i ws ↔ ∃ k previous current, ws[k]? = some previous ∧
      ws[k + 1]? = some current ∧ previous.weight < current.weight ∧
      v = violation (i + k + 1) previous current := by
  induction ws generalizing i with
  | nil => simp [violationsFrom]
  | cons w ws ih =>
    cases ws with
    | nil => simp [violationsFrom]
    | cons w' ws =>
      have hmore : (∃ k previous current, (w' :: ws)[k]? = some previous ∧
            (w' :: ws)[k + 1]? = some current ∧ previous.weight < current.weight ∧
            v = violation (i + 1 + k + 1) previous current) ↔
          v ∈ violationsFrom (i + 1) (w' :: ws) := ih.symm
      -- It stands at the front, or in the rest of the list with a number less.
      have hcut : (∃ k previous current, (w :: w' :: ws)[k]? = some previous ∧
            (w :: w' :: ws)[k + 1]? = some current ∧ previous.weight < current.weight ∧
            v = violation (i + k + 1) previous current) ↔
          w.weight < w'.weight ∧ v = violation (i + 1) w w' ∨
            v ∈ violationsFrom (i + 1) (w' :: ws) := by
        rw [← hmore]
        constructor
        · rintro ⟨k, previous, current, hp, hc, hlt, hv⟩
          cases k with
          | zero =>
            cases hp
            cases hc
            exact .inl ⟨hlt, hv⟩
          | succ k =>
            rw [Nat.add_comm k 1, ← Nat.add_assoc] at hv
            exact .inr ⟨k, previous, current, hp, hc, hlt, hv⟩
        · rintro (⟨hlt, hv⟩ | ⟨k, previous, current, hp, hc, hlt, hv⟩)
          · exact ⟨0, w, w', rfl, rfl, hlt, hv⟩
          · refine ⟨k + 1, previous, current, hp, hc, hlt, ?_⟩
            rw [hv, Nat.add_comm k 1, ← Nat.add_assoc]
      rw [hcut, violationsFrom]
      split
      · next hlt => rw [mem_cons, and_iff_right hlt]
      · next hlt => rw [or_iff_right fun h => hlt h.1]

theorem lt_index_of_mem (h : v ∈ violationsFrom i ws) : i < v.index := by
  obtain ⟨k, previous, current, -, -, -, rfl⟩ := mem_violationsFrom.mp h
  change i < i + k + 1
  omega

theorem increasing_violationsFrom (i : Nat) (ws : List (Weighted ν)) :
    (violationsFrom i ws).Pairwise fun v later => v.index < later.index := by
  fun_induction violationsFrom i ws with
  | case1 i previous current rest more hlt ih =>
    exact .cons (fun later hl => lt_index_of_mem hl) ih
  | case2 i previous current rest more hle ih => exact ih
  | case3 => exact .nil

/-- No entry outweighs its neighbour just if none outweighs any earlier one. -/
theorem violationsFrom_eq_nil_iff :
    violationsFrom i ws = [] ↔ ws.Pairwise fun w later => later.weight ≤ w.weight := by
  have : Trans (fun w later : Weighted ν => later.weight ≤ w.weight)
      (fun w later : Weighted ν => later.weight ≤ w.weight)
      (fun w later : Weighted ν => later.weight ≤ w.weight) := ⟨fun h h' => h'.trans h⟩
  rw [← isChain_iff_pairwise]
  fun_induction violationsFrom i ws with
  | case1 i previous current rest more hlt ih =>
    rw [isChain_cons_cons]
    exact iff_of_false (cons_ne_nil _ _) fun h => absurd h.1 (Nat.not_le.mpr hlt)
  | case2 i previous current rest more hle ih =>
    rw [isChain_cons_cons, and_iff_right (Nat.not_lt.mp hle)]
    exact ih
  | case3 ws i hws =>
    refine iff_of_true rfl ?_
    match ws, hws with
    | [], _ => exact .nil
    | [w], _ => exact .singleton w
    | w :: w' :: ws, hws => exact absurd rfl (hws w w' ws)

section Rows

def Violation.behind (n : Nat) (v : Violation ν) : Violation ν := { v with index := n + v.index }

/-- The violation where two lists meet: `index` is the length of the first, `last` its last entry
and `next` the first entry of the second. -/
def seam (index : Nat) : Option (Weighted ν) → Option (Weighted ν) → List (Violation ν)
  | some last, some next => if last.weight < next.weight then [violation index last next] else []
  | _, _ => []

theorem violationsFrom_add (n i : Nat) (ws : List (Weighted ν)) :
    violationsFrom (n + i) ws = (violationsFrom i ws).map (Violation.behind n) := by
  fun_induction violationsFrom i ws with
  | case1 i previous current rest more hlt ih =>
    rw [violationsFrom, if_pos hlt, map_cons, ← ih]
    rfl
  | case2 i previous current rest more hle ih =>
    rw [violationsFrom, if_neg hle, ← ih]
    rfl
  | case3 ws i hws =>
    rw [violationsFrom]
    · rfl
    · exact hws

theorem violationsFrom_cons (w : Weighted ν) (ws : List (Weighted ν)) :
    violationsFrom i (w :: ws) = seam (i + 1) (some w) ws.head? ++ violationsFrom (i + 1) ws := by
  cases ws with
  | nil => rfl
  | cons w' ws =>
    rw [violationsFrom, head?_cons, seam]
    split <;> rfl

theorem violationsFrom_append (xs ys : List (Weighted ν)) :
    violationsFrom i (xs ++ ys) =
      violationsFrom i xs ++ seam (i + xs.length) xs.getLast? ys.head? ++
        violationsFrom (i + xs.length) ys := by
  induction xs generalizing i with
  | nil => rfl
  | cons w xs ih =>
    have hlen : i + 1 + xs.length = i + (w :: xs).length := by
      rw [length_cons]
      omega
    rw [cons_append, violationsFrom_cons, ih, hlen, violationsFrom_cons]
    cases xs with
    | nil => simp [violationsFrom, seam]
    | cons w' xs => simp only [cons_append, head?_cons, getLast?_cons_cons, append_assoc]

end Rows

/-- The violations are the places where an entry outweighs the one in front of it. They come in the
order of the places, each with the entries that stand there. -/
structure Marks (ws : List (Weighted ν)) (vs : List (Violation ν)) : Prop where
  increasing : vs.Pairwise fun v later => v.index < later.index
  mem_iff : ∀ v, v ∈ vs ↔ ∃ k previous current, ws[k]? = some previous ∧ ws[k + 1]? = some current ∧
    previous.weight < current.weight ∧
    v = ⟨k + 1, current.element, current.weight, current.category, previous.element,
      previous.weight, previous.category⟩

theorem marks_violations (ws : List (Weighted ν)) : Marks ws (violations ws) where
  increasing := increasing_violationsFrom 0 ws
  mem_iff v := by
    rw [violations, mem_violationsFrom]
    simp only [Nat.zero_add]
    rfl

/-- Places where the weight rises are told, and nothing else: none if it never does, and in two
lists in a row those of each and the seam. -/
theorem marks_descents (ws xs ys : List (Weighted ν)) :
    Marks ws (violations ws) ∧
      (violations ws = [] ↔ ∀ (i j : Nat) (w later : Weighted ν), ws[i]? = some w →
        ws[j]? = some later → i < j → later.weight ≤ w.weight) ∧
      violations (xs ++ ys) = violations xs ++ seam xs.length xs.getLast? ys.head? ++
        (violations ys).map (Violation.behind xs.length) := by
  refine ⟨marks_violations ws, ?_, ?_⟩
  · rw [violations, violationsFrom_eq_nil_iff, pairwise_iff_getElem]
    constructor
    · intro h i j w later hi hj hlt
      obtain ⟨hi', rfl⟩ := List.getElem?_eq_some_iff.mp hi
      obtain ⟨hj', rfl⟩ := List.getElem?_eq_some_iff.mp hj
      exact h i j hi' hj' hlt
    · intro h i j hi hj hlt
      exact h i j ws[i] ws[j] (getElem?_eq_getElem hi) (getElem?_eq_getElem hj) hlt
  · have hshift := violationsFrom_add xs.length 0 ys
    rw [Nat.add_zero] at hshift
    rw [violations, violationsFrom_append, Nat.zero_add, hshift]
    rfl

end HeadAudit.Ordering

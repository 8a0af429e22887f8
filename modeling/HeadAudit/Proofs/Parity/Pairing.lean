import HeadAudit.Proofs.Parity.View

namespace HeadAudit

open List Relator

variable {ν μ : Type} {a : Adapter ν} {b : Adapter μ} {head x c : ν} {head' y y' : μ}

/-- A head and the elements below it. -/
inductive Below (a : Adapter ν) (head : ν) : ν → Prop where
  | head : Below a head head
  | child {x c : ν} (h : Below a head x) (hc : c ∈ a.children x) : Below a head c

/-- Each element below a head is a child once, and the head is none. -/
structure Rooted (a : Adapter ν) (head : ν) : Prop where
  parent : ∀ {x c}, Below a head x → c ∈ a.children x → a.parent c = some x
  nodup : ∀ {x}, Below a head x → (a.children x).Nodup
  not_mem : ∀ {x}, Below a head x → head ∉ a.children x

/-- Elements at the end of the same way down from two heads, counted in children. -/
inductive Paired (a : Adapter ν) (b : Adapter μ) (head : ν) (head' : μ) : ν → μ → Prop where
  | head : Paired a b head head' head head'
  | child {x c : ν} {y d : μ} {i : Nat} (h : Paired a b head head' x y)
      (hc : (a.children x)[i]? = some c) (hd : (b.children y)[i]? = some d) :
      Paired a b head head' c d

namespace Paired

theorem isBelow (h : Paired a b head head' x y) : Below a head x := by
  induction h with
  | head => exact .head
  | child _ hc _ ih => exact ih.child (mem_of_getElem? hc)

theorem symm (h : Paired a b head head' x y) : Paired b a head' head y x := by
  induction h with
  | head => exact .head
  | child _ hc hd ih => exact ih.child hd hc

theorem right_unique (ha : Rooted a head) (h : Paired a b head head' x y)
    (h' : Paired a b head head' x y') : y = y' := by
  induction h generalizing y' with
  | head =>
    cases h' with
    | head => rfl
    | child h' hc _ => exact absurd (mem_of_getElem? hc) (ha.not_mem h'.isBelow)
  | @child z c w d i h hc hd ih =>
    have hz := ha.parent h.isBelow (mem_of_getElem? hc)
    cases h' with
    | head => exact absurd (mem_of_getElem? hc) (ha.not_mem h.isBelow)
    | @child z' _ w' _ j h' hc' hd' =>
      obtain rfl : z' = z := by
        rw [ha.parent h'.isBelow (mem_of_getElem? hc')] at hz
        exact Option.some.inj hz
      obtain rfl := ih h'
      obtain ⟨hi, hci⟩ := List.getElem?_eq_some_iff.mp hc
      obtain ⟨hj, hcj⟩ := List.getElem?_eq_some_iff.mp hc'
      obtain rfl : i = j := ((ha.nodup h.isBelow).getElem_inj_iff).mp (hci.trans hcj.symm)
      exact Option.some.inj (hd.symm.trans hd')

theorem biUnique (ha : Rooted a head) (hb : Rooted b head') :
    BiUnique (Paired a b head head') :=
  ⟨fun _ _ _ h h' => right_unique hb h.symm h'.symm, fun _ _ _ h h' => right_unique ha h h'⟩

end Paired

theorem rel_getElem? {α β : Type} {R : α → β → Prop} {xs : List α} {ys : List β}
    (h : Forall₂ R xs ys) {i : Nat} {x : α} {y : β} (hx : xs[i]? = some x)
    (hy : ys[i]? = some y) : R x y := by
  induction h generalizing i with
  | nil => cases hx
  | cons hxy _ ih =>
    cases i with
    | zero =>
      cases hx
      cases hy
      exact hxy
    | succ i => exact ih hx hy

theorem exists_rel_head? {α β : Type} {R : α → β → Prop} {xs : List α} {ys : List β}
    (h : Forall₂ R xs ys) {x : α} (hx : xs.head? = some x) : ∃ y, ys.head? = some y ∧ R x y := by
  cases h with
  | nil => cases hx
  | cons hxy _ =>
    cases hx
    exact ⟨_, rfl, hxy⟩

theorem exists_rel_of_mem {α β : Type} {R : α → β → Prop} {xs : List α} {ys : List β}
    (h : Forall₂ R xs ys) {x : α} (hx : x ∈ xs) : ∃ y ∈ ys, R x y := by
  induction h with
  | nil => cases hx
  | cons hxy _ ih =>
    rcases mem_cons.mp hx with rfl | hx
    · exact ⟨_, mem_cons_self, hxy⟩
    · obtain ⟨y, hy, hr⟩ := ih hx
      exact ⟨y, mem_cons_of_mem _ hy, hr⟩

theorem forall₂_of_getElem? {α β : Type} {R : α → β → Prop} {xs : List α} {ys : List β}
    (hl : xs.length = ys.length)
    (h : ∀ {i : Nat} {x y}, xs[i]? = some x → ys[i]? = some y → R x y) : Forall₂ R xs ys := by
  apply forall₂_of_length_eq_of_get hl
  intro i hx hy
  rw [get_eq_getElem, get_eq_getElem]
  exact h (List.getElem?_eq_getElem hx) (List.getElem?_eq_getElem hy)

end HeadAudit

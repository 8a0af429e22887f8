import HeadAudit.Proofs.Parity.View

namespace HeadAudit

open List

theorem rel_foldlM {α β σ ε : Type} {R : α → β → Prop} {f : σ → α → Except ε σ}
    {g : σ → β → Except ε σ} {xs : List α} {ys : List β} (h : Forall₂ R xs ys)
    (hf : ∀ {x y}, R x y → ∀ s, f s x = g s y) (s : σ) : xs.foldlM f s = ys.foldlM g s := by
  induction h generalizing s with
  | nil => rfl
  | cons hxy _ ih =>
    rw [foldlM_cons, foldlM_cons, hf hxy]
    exact congrArg (_ >>= ·) (funext fun s => ih s)

theorem foldlM_error {α σ ε : Type} {f : σ → α → Except ε σ} {xs : List α} {x : α} (hx : x ∈ xs)
    (hf : ∀ s, ∃ e, f s x = .error e) (s : σ) : ∃ e, xs.foldlM f s = .error e := by
  induction xs generalizing s with
  | nil => cases hx
  | cons y ys ih =>
    rw [foldlM_cons]
    cases hs : f s y with
    | error e => exact ⟨e, rfl⟩
    | ok s' =>
      rcases mem_cons.mp hx with rfl | hx
      · obtain ⟨e, he⟩ := hf s
        exact absurd (he.symm.trans hs) (by simp)
      · exact ih hx s'

namespace Adapter

open Written

variable {ν : Type} {a : Adapter ν} {target node : ν} {fuel pos : Nat}

theorem ascend_some {parent : ν} (h : a.parent node = some parent) :
    a.ascend (fuel + 1) node = a.ascend fuel parent := by
  simp only [ascend, h]

theorem ascend_none (h : a.parent node = none) : a.ascend fuel node = node := by
  cases fuel with
  | zero => rfl
  | succ fuel => simp only [ascend, h]

variable [DecidableEq ν]

def seekInside (a : Adapter ν) (target : ν) (fuel : Nat) (node : ν) (pos : Nat) : Except Nat Nat :=
  (a.children node).foldlM (fun pos child => a.seek target fuel child pos)
    (pos + (a.writeStart node).utf8ByteSize +
      (text (a.tagName node) (a.textContent node)).utf8ByteSize)

def seekBehind (a : Adapter ν) (target : ν) (fuel : Nat) (node : ν) (pos : Nat) : Except Nat Nat :=
  if isVoid (a.tagName node) then .ok (pos + (a.writeStart node).utf8ByteSize)
  else (a.seekInside target fuel node pos).map (· + (endTag (a.tagName node)).utf8ByteSize)

theorem seek_succ (a : Adapter ν) (target : ν) (fuel : Nat) (node : ν) (pos : Nat) :
    a.seek target (fuel + 1) node pos =
      (a.seekBehind target fuel node pos).bind fun behind =>
        if node = target then .error behind else .ok behind := by
  rw [seek, seekBehind]
  split
  · rfl
  · rw [seekInside]
    dsimp only
    cases (a.children node).foldlM (fun pos child => a.seek target fuel child pos)
      (pos + (a.writeStart node).utf8ByteSize +
        (text (a.tagName node) (a.textContent node)).utf8ByteSize) <;> rfl

theorem seek_self (a : Adapter ν) (target : ν) (fuel pos : Nat) :
    ∃ offset, a.seek target (fuel + 1) target pos = .error offset := by
  rw [seek_succ]
  cases a.seekBehind target fuel target pos with
  | error offset => exact ⟨offset, rfl⟩
  | ok behind => exact ⟨behind, if_pos rfl⟩

theorem seek_eq_error_of_inside (hv : isVoid (a.tagName node) = false) {offset : Nat}
    (h : a.seekInside target fuel node pos = .error offset) :
    a.seek target (fuel + 1) node pos = .error offset := by
  rw [seek_succ, seekBehind, hv, h]
  rfl

/-- The walk over a node ends at a child that is the target. -/
theorem seek_of_mem (hv : isVoid (a.tagName node) = false) (ht : target ∈ a.children node)
    (fuel pos : Nat) : ∃ offset, a.seek target (fuel + 2) node pos = .error offset := by
  obtain ⟨offset, h⟩ := foldlM_error (f := fun pos child => a.seek target (fuel + 1) child pos) ht
    (fun pos => seek_self a target fuel pos)
    (pos + (a.writeStart node).utf8ByteSize +
      (text (a.tagName node) (a.textContent node)).utf8ByteSize)
  exact ⟨offset, seek_eq_error_of_inside hv h⟩

/-- The walk over a node ends in its first child, if it does not get beyond it. -/
theorem seek_of_first (hv : isVoid (a.tagName node) = false) {first : ν}
    (hf : (a.children node).head? = some first) {offset : Nat}
    (h : a.seek target fuel first (pos + (a.writeStart node).utf8ByteSize +
      (text (a.tagName node) (a.textContent node)).utf8ByteSize) = .error offset) :
    a.seek target (fuel + 1) node pos = .error offset := by
  obtain ⟨rest, hc⟩ := head?_eq_some_iff.mp hf
  apply seek_eq_error_of_inside hv
  rw [seekInside, hc, foldlM_cons, h]
  rfl

end Adapter

open Adapter Written

variable {ν μ : Type} {a : Adapter ν} {b : Adapter μ} {R : ν → μ → Prop} {rank : ν → Nat}
  {x target : ν} {y target' : μ}

theorem SameHead.root {head : ν} {head' : μ} (h : SameHead a b R rank head head')
    (hxy : Counterparts a b R head head' x y) {top : ν} {top' : μ}
    (hr : Around a b head top head' top') : a.root x = top ∧ b.root y = top' := by
  have hlt := h.rank_lt h.related hxy.mem
  have hf := h.rank_lt_height
  have hf' := h.rank_lt_height'
  obtain ⟨k, hk⟩ : ∃ k, a.height = k + 2 := ⟨a.height - 2, by omega⟩
  obtain ⟨k', hk'⟩ : ∃ k, b.height = k + 2 := ⟨b.height - 2, by omega⟩
  rw [Adapter.root, Adapter.root, hk, hk', ascend_some (h.parent x hxy.mem), ascend_some hr.parent,
    ascend_none hr.topmost, ascend_some (h.parent' y hxy.mem'), ascend_some hr.parent',
    ascend_none hr.topmost']
  exact ⟨rfl, rfl⟩

variable [DecidableEq ν] [DecidableEq μ]

theorem Similar.seek (h : Similar a b R rank) (hxy : R x y) (ht : R target target')
    {fuel fuel' : Nat} (hf : rank x < fuel) (hf' : rank x < fuel') (pos : Nat) :
    a.seek target fuel x pos = b.seek target' fuel' y pos := by
  induction fuel generalizing x y fuel' pos with
  | zero => exact absurd hf (Nat.not_lt_zero _)
  | succ fuel ih =>
    obtain ⟨fuel', rfl⟩ : ∃ k, fuel' = k + 1 := ⟨fuel' - 1, by omega⟩
    have hinside : a.seekInside target fuel x pos = b.seekInside target' fuel' y pos := by
      rw [seekInside, seekInside, h.tagName hxy, h.writeStart hxy, h.textContent hxy]
      refine rel_foldlM (forall₂_and_mem (h.children hxy)) (fun hcd pos => ?_) _
      have hr := h.rank_lt hxy hcd.2.1
      exact ih hcd.1 (by omega) (by omega) pos
    rw [seek_succ, seek_succ, seekBehind, seekBehind, hinside, h.tagName hxy, h.writeStart hxy]
    simp only [h.eq_iff hxy ht]

theorem SameHead.endOffset? {head : ν} {head' : μ} (h : SameHead a b R rank head head')
    (hxy : Counterparts a b R head head' x y) : a.endOffset? x = b.endOffset? y := by
  obtain ⟨top, top', hr⟩ := h.around
  obtain ⟨hroot, hroot'⟩ := h.root hxy hr
  have hf := h.rank_lt_height
  have hf' := h.rank_lt_height'
  have hlt := h.rank_lt h.related hxy.mem
  obtain ⟨k, hk⟩ : ∃ k, a.height = k + 2 := ⟨a.height - 2, by omega⟩
  -- The walk comes to the head first and ends in it, so nothing behind the head is written.
  obtain ⟨offset, ho⟩ := seek_of_mem h.notVoid hxy.mem k (0 + (a.writeStart top).utf8ByteSize +
      (text (a.tagName top) (a.textContent top)).utf8ByteSize)
  rw [← hk] at ho
  have ho' := ho
  rw [h.seek h.related hxy.related hf hf', hr.writeStart, hr.tagName, hr.textContent] at ho'
  rw [Adapter.endOffset?, Adapter.endOffset?, h.isElement hxy.related, hroot, hroot',
    seek_of_first hr.notVoid hr.first ho, seek_of_first (hr.tagName ▸ hr.notVoid) hr.first' ho']

end HeadAudit

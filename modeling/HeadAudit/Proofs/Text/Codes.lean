import Mathlib

namespace HeadAudit

open List

variable {α β : Type} {f : α → List β} {P : α → Prop} {stop : β} {p : β → Bool}
  {s u left right : List β} {xs ys : List α}

theorem append_inj_of_all (hl : ∀ c ∈ left, p c) (hr : ∀ c ∈ right, p c)
    (hs : ∀ c ∈ s.head?, p c = false) (hu : ∀ c ∈ u.head?, p c = false)
    (h : left ++ s = right ++ u) : left = right ∧ s = u := by
  have htake : ∀ {v : List β}, (∀ c ∈ v.head?, p c = false) → v.takeWhile p = [] := by
    intro v hv
    cases v with
    | nil => rfl
    | cons c v => rw [takeWhile_cons, hv c rfl, if_neg Bool.false_ne_true]
  have hsame : left = right := by
    have := congrArg (takeWhile p) h
    rwa [takeWhile_append_of_pos hl, takeWhile_append_of_pos hr, htake hs, htake hu, append_nil,
      append_nil] at this
  subst hsame
  exact ⟨rfl, append_cancel_left h⟩

/-- Words that end where they end, and do not begin like the mark behind the last of them, can be
told apart when they are written one after the other. -/
theorem flatMap_inj_of_stop (hstop : ∀ x, P x → ∃ c cs, f x = c :: cs ∧ c ≠ stop)
    (hf : ∀ {x y s u}, P x → P y → f x ++ s = f y ++ u → x = y ∧ s = u)
    (hxs : ∀ x ∈ xs, P x) (hys : ∀ y ∈ ys, P y)
    (h : xs.flatMap f ++ stop :: s = ys.flatMap f ++ stop :: u) : xs = ys ∧ s = u := by
  induction xs generalizing ys with
  | nil =>
    cases ys with
    | nil => exact ⟨rfl, (cons.inj h).2⟩
    | cons y ys =>
      obtain ⟨c, cs, hc, hne⟩ := hstop y (hys y mem_cons_self)
      rw [flatMap_cons, hc] at h
      exact absurd (cons.inj h).1.symm hne
  | cons x xs ih =>
    cases ys with
    | nil =>
      obtain ⟨c, cs, hc, hne⟩ := hstop x (hxs x mem_cons_self)
      rw [flatMap_cons, hc] at h
      exact absurd (cons.inj h).1 hne
    | cons y ys =>
      rw [forall_mem_cons] at hxs hys
      rw [flatMap_cons, flatMap_cons, append_assoc, append_assoc] at h
      obtain ⟨rfl, hrest⟩ := hf hxs.1 hys.1 h
      obtain ⟨rfl, rfl⟩ := ih hxs.2 hys.2 hrest
      exact ⟨rfl, rfl⟩

end HeadAudit

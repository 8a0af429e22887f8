import Mathlib
import HeadAudit.Text.Dictionary

namespace HeadAudit.Dictionary

open List

variable {α : Type} {d e : Dictionary α} {ps qs : List (String × α)} {k key : String} {v value : α}

def Sorted (d : Dictionary α) : Prop := d.Pairwise fun p q => p.1 < q.1

def firsts (ps : List (String × α)) : Dictionary α :=
  ps.foldl (fun d p => insertNew p.1 p.2 d) []

def lasts (ps : List (String × α)) : Dictionary α :=
  ps.foldl (fun d p => insert p.1 p.2 d) []

/-- A dictionary with the entries of another one whose keys it lacks. -/
def extend (d e : Dictionary α) : Dictionary α :=
  e.foldl (fun d p => insertNew p.1 p.2 d) d

section Lookup

theorem lookup_cons_eq (p : String × α) :
    lookup k (p :: ps) = if k = p.1 then some p.2 else lookup k ps := by
  by_cases h : k = p.1
  · rw [lookup_cons, beq_iff_eq.mpr h, if_pos h]
  · rw [lookup_cons, beq_eq_false_iff_ne.mpr h, if_neg h]

theorem lookup_eq_some_iff_mem (h : (ps.map (·.1)).Nodup) :
    lookup k ps = some v ↔ (k, v) ∈ ps := by
  induction ps with
  | nil => simp
  | cons p ps ih =>
    rw [map_cons, nodup_cons] at h
    rw [lookup_cons_eq, mem_cons]
    by_cases hk : k = p.1
    · subst hk
      have hn : (p.1, v) ∉ ps := fun hm => h.1 (mem_map_of_mem (f := (·.1)) hm)
      simp [hn, Prod.ext_iff, eq_comm]
    · rw [if_neg hk, ih h.2]
      simp [Prod.ext_iff, hk]

theorem lookup_eq_of_perm (h : (ps.map (·.1)).Nodup) (hp : ps.Perm qs) :
    lookup k ps = lookup k qs := by
  apply Option.ext
  intro v
  rw [lookup_eq_some_iff_mem h, lookup_eq_some_iff_mem ((hp.map _).nodup_iff.mp h), hp.mem_iff]

end Lookup

section Insertion

@[simp]
theorem get?_nil : get? ([] : Dictionary α) k = none := rfl

theorem get?_insert (d : Dictionary α) :
    get? (insert key value d) k = if k = key then some value else get? d k := by
  induction d with
  | nil => exact lookup_cons_eq (key, value)
  | cons p d ih =>
    rw [get?, get?] at *
    simp only [insert]
    split
    · next h =>
      subst h
      rw [lookup_cons_eq, lookup_cons_eq]
      split <;> rfl
    · next h =>
      split
      · rw [lookup_cons_eq]
      · rw [lookup_cons_eq, lookup_cons_eq, ih]
        grind

theorem get?_insertNew (d : Dictionary α) : get? (insertNew key value d) k =
    (get? d k).or (if k = key then some value else none) := by
  rw [insertNew, contains]
  by_cases hk : k = key
  · subst hk
    cases h : get? d k <;> simp [h, get?_insert]
  · split <;> simp [hk, get?_insert]

theorem mem_insert {p : String × α} (h : p ∈ insert key value d) : p = (key, value) ∨ p ∈ d := by
  induction d with
  | nil => exact .inl (mem_singleton.mp h)
  | cons q d ih =>
    rw [insert] at h
    grind

theorem sorted_insert (h : Sorted d) : Sorted (insert key value d) := by
  induction d with
  | nil => exact pairwise_singleton _ _
  | cons p d ih =>
    obtain ⟨hp, hd⟩ := pairwise_cons.mp h
    rw [insert]
    split
    · next hk => exact pairwise_cons.mpr ⟨fun q hq => hk ▸ hp q hq, hd⟩
    · next hne =>
      split
      · next hlt =>
        refine pairwise_cons.mpr ⟨fun q hq => ?_, h⟩
        rcases mem_cons.mp hq with rfl | hq
        · exact hlt
        · exact hlt.trans (hp q hq)
      · next hle =>
        have hgt : p.1 < key := lt_of_le_of_ne (not_lt.mp hle) (Ne.symm hne)
        refine pairwise_cons.mpr ⟨fun q hq => ?_, ih hd⟩
        rcases mem_insert hq with rfl | hq
        · exact hgt
        · exact hp q hq

theorem sorted_insertNew (h : Sorted d) : Sorted (insertNew key value d) := by
  rw [insertNew]
  split
  · exact h
  · exact sorted_insert h

end Insertion

section Maps

theorem Sorted.nodup (h : Sorted d) : (d.map (·.1)).Nodup :=
  pairwise_map.mpr (h.imp fun hlt => hlt.ne)

theorem Sorted.mem_iff (h : Sorted d) : (k, v) ∈ d ↔ get? d k = some v :=
  (lookup_eq_some_iff_mem h.nodup).symm

/-- A dictionary is known by what it says of each key. -/
theorem Sorted.ext (h : Sorted d) (h' : Sorted e) (hg : ∀ k, get? d k = get? e k) : d = e := by
  have hm : ∀ p, p ∈ d ↔ p ∈ e := fun p => by rw [h.mem_iff, h'.mem_iff, hg]
  have hp : d.Perm e := (perm_ext_iff_of_nodup h.nodup.of_map h'.nodup.of_map).mpr hm
  exact hp.eq_of_pairwise (fun p q _ _ hpq hqp => absurd hqp hpq.asymm) h h'

theorem sorted_extend (h : Sorted d) (ps : List (String × α)) : Sorted (extend d ps) := by
  rw [extend]
  induction ps generalizing d with
  | nil => exact h
  | cons p ps ih => exact ih (sorted_insertNew h)

theorem get?_extend (d : Dictionary α) (ps : List (String × α)) :
    get? (extend d ps) k = (get? d k).or (lookup k ps) := by
  rw [extend]
  induction ps generalizing d with
  | nil => simp
  | cons p ps ih =>
    rw [foldl_cons, ih, get?_insertNew, lookup_cons_eq]
    by_cases hk : k = p.1 <;> simp [hk]

theorem sorted_firsts (ps : List (String × α)) : Sorted (firsts ps) :=
  sorted_extend .nil ps

theorem get?_firsts (ps : List (String × α)) : get? (firsts ps) k = lookup k ps :=
  get?_extend [] ps

theorem mem_of_mem_firsts {p : String × α} (h : p ∈ firsts ps) : p ∈ ps := by
  have hl : lookup p.1 ps = some p.2 := by rwa [← get?_firsts, ← (sorted_firsts ps).mem_iff]
  obtain ⟨front, back, rfl, -⟩ := lookup_eq_some_iff.mp hl
  exact mem_append_right front mem_cons_self

theorem sorted_lasts (ps : List (String × α)) : Sorted (lasts ps) := by
  have hs : ∀ d : Dictionary α, Sorted d →
      Sorted (ps.foldl (fun d p => insert p.1 p.2 d) d) := by
    induction ps with
    | nil => exact fun d h => h
    | cons p ps ih => exact fun d h => ih _ (sorted_insert h)
  exact hs [] .nil

theorem get?_lasts (ps : List (String × α)) : get? (lasts ps) k = lookup k ps.reverse := by
  have hg : ∀ d : Dictionary α, get? (ps.foldl (fun d p => insert p.1 p.2 d) d) k =
      (lookup k ps.reverse).or (get? d k) := by
    induction ps with
    | nil => simp
    | cons p ps ih =>
      intro d
      rw [foldl_cons, ih, get?_insert, reverse_cons, lookup_append, lookup_cons_eq, lookup_nil]
      by_cases hk : k = p.1 <;> simp [hk]
  rw [lasts, hg, get?_nil, Option.or_none]

theorem lasts_eq_firsts_reverse (ps : List (String × α)) : lasts ps = firsts ps.reverse :=
  (sorted_lasts ps).ext (sorted_firsts _) fun k => by rw [get?_lasts, get?_firsts]

theorem firsts_append (ps qs : List (String × α)) :
    firsts (ps ++ qs) = extend (firsts ps) (firsts qs) := by
  apply (sorted_firsts _).ext (sorted_extend (sorted_firsts _) _)
  intro k
  have hq : lookup k (firsts qs) = lookup k qs := get?_firsts qs
  rw [get?_extend, get?_firsts, get?_firsts, lookup_append, hq]

theorem lasts_append (ps qs : List (String × α)) :
    lasts (ps ++ qs) = extend (lasts qs) (lasts ps) := by
  simp only [lasts_eq_firsts_reverse, reverse_append, firsts_append]

theorem Sorted.firsts_eq (h : Sorted d) : firsts d = d :=
  (sorted_firsts d).ext h fun _ => get?_firsts d

theorem firsts_eq_of_perm (h : (ps.map (·.1)).Nodup) (hp : ps.Perm qs) : firsts ps = firsts qs :=
  (sorted_firsts ps).ext (sorted_firsts qs) fun k => by
    rw [get?_firsts, get?_firsts, lookup_eq_of_perm h hp]

theorem lasts_eq_firsts (h : (ps.map (·.1)).Nodup) : lasts ps = firsts ps := by
  rw [lasts_eq_firsts_reverse, firsts_eq_of_perm h ps.reverse_perm.symm]

end Maps

end HeadAudit.Dictionary

import Mathlib
import HeadAudit.Live.Tree

namespace HeadAudit.Live

namespace NodeId

def firstOf (ids : List NodeId) : NodeId := ids.head?.getD .absent

def lastOf (ids : List NodeId) : NodeId := ids.getLast?.getD .absent

@[simp] theorem firstOf_nil : firstOf [] = .absent := rfl

@[simp] theorem firstOf_cons (id : NodeId) (ids : List NodeId) : firstOf (id :: ids) = id := rfl

@[simp] theorem lastOf_nil : lastOf [] = .absent := rfl

@[simp] theorem lastOf_concat (ids : List NodeId) (id : NodeId) : lastOf (ids ++ [id]) = id := by
  simp [lastOf]

theorem firstOf_append (ids more : List NodeId) (h : ids ≠ []) :
    firstOf (ids ++ more) = firstOf ids := by
  cases ids with
  | nil => exact absurd rfl h
  | cons id ids => rfl

theorem lastOf_append (ids more : List NodeId) (h : more ≠ []) :
    lastOf (ids ++ more) = lastOf more := by
  obtain ⟨front, id, rfl⟩ := List.eq_nil_or_concat' more |>.resolve_left h
  rw [← List.append_assoc, lastOf_concat, lastOf_concat]

theorem firstOf_mem (ids : List NodeId) (h : ids ≠ []) : firstOf ids ∈ ids := by
  cases ids with
  | nil => exact absurd rfl h
  | cons id ids => simp

theorem lastOf_mem (ids : List NodeId) (h : ids ≠ []) : lastOf ids ∈ ids := by
  obtain ⟨front, id, rfl⟩ := List.eq_nil_or_concat' ids |>.resolve_left h
  simp

theorem ends_ne {id : NodeId} {front back : List NodeId} (ha : id ≠ .absent)
    (hn : id ∉ front ++ back) : lastOf front ≠ id ∧ firstOf back ≠ id := by
  rw [List.mem_append, not_or] at hn
  constructor
  · rintro rfl
    by_cases hf : front = []
    · exact ha (by simp [hf])
    · exact hn.1 (lastOf_mem _ hf)
  · rintro rfl
    by_cases hb : back = []
    · exact ha (by simp [hb])
    · exact hn.2 (firstOf_mem _ hb)

end NodeId

namespace Tree

variable (t : Tree) (p a b d q x : NodeId)

def content? : Option Content := (t.get? d).map (·.content)

theorem get?_of_content?_eq {t u : Tree} {d : NodeId} (h : u.content? d = t.content? d) :
    (u.get? d = none ∧ t.get? d = none) ∨
      ∃ n m, u.get? d = some n ∧ t.get? d = some m ∧ n.content = m.content := by
  rw [Tree.content?, Tree.content?] at h
  cases hu : u.get? d with
  | none =>
    rw [hu, Option.map_none, eq_comm, Option.map_eq_none_iff] at h
    exact .inl ⟨rfl, h⟩
  | some n =>
    rw [hu, Option.map_some, eq_comm, Option.map_eq_some_iff] at h
    obtain ⟨m, hm, hc⟩ := h
    exact .inr ⟨n, m, rfl, hm, hc.symm⟩

theorem get?_update (f : Node → Node) :
    (t.update a f).get? d = if d = a then (t.get? d).map f else t.get? d := by
  cases a with
  | mk i =>
    cases d with
    | mk j =>
      simp only [get?, update, Array.getElem?_modify, NodeId.mk.injEq]
      by_cases h : i = j
      · simp [h]
      · simp [h, Ne.symm h]

theorem ext_get? {t u : Tree} (h : ∀ d, t.get? d = u.get? d) : t = u := by
  cases t with
  | mk ns =>
    cases u with
    | mk ms =>
      congr 1
      apply Array.ext_getElem?
      intro i
      exact h ⟨i⟩

theorem update_eq_self {f : Node → Node} (h : ∀ n, t.get? a = some n → f n = n) :
    t.update a f = t := by
  apply ext_get?
  intro d
  rw [get?_update]
  split
  · next hd =>
    subst hd
    cases hn : t.get? d with
    | none => rfl
    | some n => rw [Option.map_some, h n hn]
  · rfl

@[simp] theorem contains_update (f : Node → Node) : (t.update a f).contains d = t.contains d := by
  simp only [contains, get?_update]
  split <;> simp

@[simp] theorem size_update (f : Node → Node) : (t.update a f).size = t.size := by
  simp [size, update]

theorem contains_iff : t.contains d = true ↔ ∃ n, t.get? d = some n := by
  rw [contains, Option.isSome_iff_exists]

theorem contains_eq_false_iff : t.contains d = false ↔ t.get? d = none := by
  simp [contains]

theorem contains_iff_lt : t.contains d = true ↔ d.index < t.size := by
  simp [contains, get?, size]

theorem contains_of_size_le {t u : Tree} {d : NodeId} (hs : t.size ≤ u.size) (hd : t.contains d) :
    u.contains d := by
  rw [contains_iff_lt] at hd ⊢
  exact lt_of_lt_of_le hd hs

def setAfter : Tree :=
  if t.contains a then t.update a ({ · with next := b })
  else t.update p ({ · with firstChild := b })

def setBefore : Tree :=
  if t.contains b then t.update b ({ · with previous := a })
  else t.update p ({ · with lastChild := a })

theorem join_eq : t.join p a b = (t.setAfter p a b).setBefore p a b := rfl

theorem get?_setAfter :
    (t.setAfter p a b).get? d = (t.get? d).map fun n =>
      { n with
        next := if d = a then b else n.next
        firstChild := if t.contains a = false ∧ d = p then b else n.firstChild } := by
  unfold setAfter
  by_cases h : t.contains a
  · rw [if_pos h, get?_update]
    by_cases hd : d = a <;> simp [h, hd]
  · have hn : t.get? a = none := by simpa [contains] using h
    rw [if_neg h, get?_update]
    by_cases hd : d = a
    · subst hd
      simp [hn]
    · by_cases hp : d = p
      · subst hp
        simp [h, hd]
      · simp [hd, hp]

theorem get?_setBefore :
    (t.setBefore p a b).get? d = (t.get? d).map fun n =>
      { n with
        previous := if d = b then a else n.previous
        lastChild := if t.contains b = false ∧ d = p then a else n.lastChild } := by
  unfold setBefore
  by_cases h : t.contains b
  · rw [if_pos h, get?_update]
    by_cases hd : d = b <;> simp [h, hd]
  · have hn : t.get? b = none := by simpa [contains] using h
    rw [if_neg h, get?_update]
    by_cases hd : d = b
    · subst hd
      simp [hn]
    · by_cases hp : d = p
      · subst hp
        simp [h, hd]
      · simp [hd, hp]

@[simp] theorem contains_setAfter : (t.setAfter p a b).contains d = t.contains d := by
  simp [contains, get?_setAfter]

@[simp] theorem contains_setBefore : (t.setBefore p a b).contains d = t.contains d := by
  simp [contains, get?_setBefore]

@[simp] theorem size_setAfter : (t.setAfter p a b).size = t.size := by
  unfold setAfter
  split <;> simp

@[simp] theorem size_setBefore : (t.setBefore p a b).size = t.size := by
  unfold setBefore
  split <;> simp

@[simp] theorem parent?_setAfter : (t.setAfter p a b).parent? d = t.parent? d := by
  simp [parent?, get?_setAfter, Function.comp_def]

@[simp] theorem parent?_setBefore : (t.setBefore p a b).parent? d = t.parent? d := by
  simp [parent?, get?_setBefore, Function.comp_def]

@[simp] theorem content?_setAfter : (t.setAfter p a b).content? d = t.content? d := by
  simp [content?, get?_setAfter, Function.comp_def]

@[simp] theorem content?_setBefore : (t.setBefore p a b).content? d = t.content? d := by
  simp [content?, get?_setBefore, Function.comp_def]

/-- What follows `x` among the children of `q`; behind nothing stands the first child. -/
def after : NodeId :=
  match t.get? x with
  | some n => n.next
  | none => ((t.get? q).map (·.firstChild)).getD .absent

def before : NodeId :=
  match t.get? x with
  | some n => n.previous
  | none => ((t.get? q).map (·.lastChild)).getD .absent

/-- Where the links beside `x` under `q` are kept: in `x`, or else in the parent. -/
def slot : NodeId × Bool := if t.contains x then (x, true) else (q, false)

theorem before_setAfter : (t.setAfter p a b).before q x = t.before q x := by
  simp only [before, get?_setAfter, Option.map_map, Function.comp_def]
  cases t.get? x <;> rfl

theorem after_setBefore : (t.setBefore p a b).after q x = t.after q x := by
  simp only [after, get?_setBefore, Option.map_map, Function.comp_def]
  cases t.get? x <;> rfl

theorem after_setAfter_of_ne (h : t.slot q x ≠ t.slot p a) :
    (t.setAfter p a b).after q x = t.after q x := by
  simp only [after, get?_setAfter, Option.map_map, Function.comp_def]
  simp only [slot, contains] at h
  cases hx : t.get? x with
  | some n =>
    have hne : x ≠ a := by
      rintro rfl
      simp [hx] at h
    simp [hne]
  | none =>
    have hne : ¬ (t.contains a = false ∧ q = p) := by
      rintro ⟨ha, rfl⟩
      rw [contains_eq_false_iff] at ha
      simp [hx, ha] at h
    simp [hne]

theorem before_setBefore_of_ne (h : t.slot q x ≠ t.slot p b) :
    (t.setBefore p a b).before q x = t.before q x := by
  simp only [before, get?_setBefore, Option.map_map, Function.comp_def]
  simp only [slot, contains] at h
  cases hx : t.get? x with
  | some n =>
    have hne : x ≠ b := by
      rintro rfl
      simp [hx] at h
    simp [hne]
  | none =>
    have hne : ¬ (t.contains b = false ∧ q = p) := by
      rintro ⟨hb, rfl⟩
      rw [contains_eq_false_iff] at hb
      simp [hx, hb] at h
    simp [hne]

theorem after_setAfter_self (hp : t.contains p) : (t.setAfter p a b).after p a = b := by
  obtain ⟨n, hn⟩ := (t.contains_iff p).mp hp
  simp only [after, get?_setAfter]
  cases ha : t.get? a with
  | some m => simp
  | none => simp [hn, (t.contains_eq_false_iff a).mpr ha]

theorem before_setBefore_self (hp : t.contains p) : (t.setBefore p a b).before p b = a := by
  obtain ⟨n, hn⟩ := (t.contains_iff p).mp hp
  simp only [before, get?_setBefore]
  cases hb : t.get? b with
  | some m => simp
  | none => simp [hn, (t.contains_eq_false_iff b).mpr hb]

theorem after_update_of_ne {f : Node → Node} (hf : ∀ n, (f n).firstChild = n.firstChild)
    (hx : x ≠ a) : (t.update a f).after q x = t.after q x := by
  simp only [after, get?_update, if_neg hx]
  cases t.get? x with
  | some n => rfl
  | none => by_cases hq : q = a <;> simp [hq, hf, Function.comp_def]

theorem before_update_of_ne {f : Node → Node} (hf : ∀ n, (f n).lastChild = n.lastChild)
    (hx : x ≠ a) : (t.update a f).before q x = t.before q x := by
  simp only [before, get?_update, if_neg hx]
  cases t.get? x with
  | some n => rfl
  | none => by_cases hq : q = a <;> simp [hq, hf, Function.comp_def]

theorem after_update_self {f : Node → Node} {n : Node} (h : t.get? a = some n) :
    (t.update a f).after q a = (f n).next := by
  simp [after, get?_update, h]

theorem before_update_self {f : Node → Node} {n : Node} (h : t.get? a = some n) :
    (t.update a f).before q a = (f n).previous := by
  simp [before, get?_update, h]

@[simp] theorem slot_update (f : Node → Node) : (t.update a f).slot q x = t.slot q x := by
  simp [slot]

@[simp] theorem slot_setAfter : (t.setAfter p a b).slot q x = t.slot q x := by
  simp [slot]

theorem after_of_get? {n : Node} (h : t.get? x = some n) : t.after q x = n.next := by
  simp [after, h]

theorem before_of_get? {n : Node} (h : t.get? x = some n) : t.before q x = n.previous := by
  simp [before, h]

end Tree

end HeadAudit.Live

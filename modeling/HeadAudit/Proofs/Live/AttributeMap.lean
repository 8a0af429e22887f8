import HeadAudit.Live.View
import HeadAudit.Proofs.Live.Names

namespace HeadAudit

namespace Ascii

theorem same_comm (s u : String) : same s u = same u s := by
  rw [Bool.eq_iff_iff, same_iff, same_iff, eq_comm]

theorem same_lower (s u : String) : same (lower s) u = same s u := by
  rw [same, lower_lower, same]

end Ascii

namespace Live

namespace Attributes

inductive Call where
  | set (name value : String)
  | remove (name : String)

def apply (attrs : Attributes) : Call → Attributes
  | .set name value => set name value attrs
  | .remove name => erase name attrs

def run (calls : List Call) : Attributes := calls.foldl apply []

/-- Values by names, which may be asked for in any case. A name keeps its place for as long as it
has a value. -/
structure IsMap (attrs : Attributes) : Prop where
  tidy : TidyNames attrs
  isSome_get?_iff : ∀ other,
    (get? attrs other).isSome ↔ Ascii.lower other ∈ attrs.map (·.1)
  get?_set : ∀ name value other, get? (set name value attrs) other =
    if Ascii.same other name then some value else get? attrs other
  get?_erase : ∀ name other, get? (erase name attrs) other =
    if Ascii.same other name then none else get? attrs other
  place : ∀ name, Ascii.lower name ∈ attrs.map (·.1) → ∃ front old back,
    attrs = front ++ (Ascii.lower name, old) :: back ∧ get? attrs name = some old ∧
      (∀ value, set name value attrs = front ++ (Ascii.lower name, value) :: back) ∧
      erase name attrs = front ++ back
  set_new : ∀ name value, Ascii.lower name ∉ attrs.map (·.1) →
    set name value attrs = attrs ++ [(Ascii.lower name, value)]
  erase_new : ∀ name, Ascii.lower name ∉ attrs.map (·.1) → erase name attrs = attrs

variable {attr : String × String} {attrs : Attributes} {name other value : String}

theorem get?_cons : get? (attr :: attrs) name =
    if Ascii.same attr.1 name then some attr.2 else get? attrs name := by
  rw [get?, List.find?_cons]
  cases Ascii.same attr.1 name <;> rfl

theorem get?_append (front back : Attributes) (name : String) :
    get? (front ++ back) name = (get? front name).or (get? back name) := by
  rw [get?, List.find?_append, Option.map_or]
  rfl

theorem same_iff_of_lowered (h : Ascii.lower attr.1 = attr.1) :
    Ascii.same attr.1 name ↔ attr.1 = Ascii.lower name := by
  rw [Ascii.same_iff, h]

theorem get?_of_not_mem (h : attrs.Lowered) (hn : Ascii.lower name ∉ attrs.map (·.1)) :
    get? attrs name = none := by
  rwa [← Option.not_isSome_iff_eq_none, isSome_get?_iff h]

theorem get?_set (attrs : Attributes) (name value other : String) :
    get? (set name value attrs) other =
      if Ascii.same other name then some value else get? attrs other := by
  induction attrs with
  | nil => rw [set, get?_cons, Ascii.same_lower, Ascii.same_comm]
  | cons attr attrs ih =>
    by_cases hs : Ascii.same attr.1 name
    · have hsame : Ascii.same attr.1 other = Ascii.same other name := by
        rw [Ascii.same_comm, Ascii.same, Ascii.same_iff.mp hs, Ascii.same]
      rw [set, if_pos hs, get?_cons, get?_cons, hsame]
      split <;> rfl
    · rw [set, if_neg hs, get?_cons, get?_cons, ih]
      by_cases ho : Ascii.same other name
      · have hne : ¬ Ascii.same attr.1 other := by
          rwa [Ascii.same, Ascii.same_iff.mp ho, ← Ascii.same]
        rw [if_neg hne, if_pos ho, if_pos ho]
      · rw [if_neg ho, if_neg ho]

theorem erase_of_not_mem (h : attrs.Lowered) (hn : Ascii.lower name ∉ attrs.map (·.1)) :
    erase name attrs = attrs := by
  induction attrs with
  | nil => rfl
  | cons attr attrs ih =>
    rw [Lowered, List.forall_mem_cons] at h
    rw [List.map_cons, List.mem_cons, not_or] at hn
    have hs : ¬ Ascii.same attr.1 name := fun hs =>
      hn.1 ((same_iff_of_lowered h.1).mp hs).symm
    rw [erase, if_neg hs, ih h.2 hn.2]

theorem exists_place (h : attrs.Lowered) (hn : Ascii.lower name ∈ attrs.map (·.1)) :
    ∃ front old back, attrs = front ++ (Ascii.lower name, old) :: back ∧
      get? attrs name = some old ∧
      (∀ value, set name value attrs = front ++ (Ascii.lower name, value) :: back) ∧
      erase name attrs = front ++ back := by
  induction attrs with
  | nil => cases hn
  | cons attr attrs ih =>
    rw [Lowered, List.forall_mem_cons] at h
    by_cases hs : Ascii.same attr.1 name
    · have hname : attr.1 = Ascii.lower name := (same_iff_of_lowered h.1).mp hs
      refine ⟨[], attr.2, attrs, ?_, ?_, fun value => ?_, ?_⟩
      · rw [← hname, List.nil_append]
      · rw [get?_cons, if_pos hs]
      · rw [set, if_pos hs, hname, List.nil_append]
      · rw [erase, if_pos hs, List.nil_append]
    · have hm : Ascii.lower name ∈ attrs.map (·.1) :=
        (List.mem_cons.mp hn).resolve_left fun he => hs ((same_iff_of_lowered h.1).mpr he.symm)
      obtain ⟨front, old, back, hsplit, hget, hset, herase⟩ := ih h.2 hm
      refine ⟨attr :: front, old, back, ?_, ?_, fun value => ?_, ?_⟩
      · rw [hsplit, List.cons_append]
      · rw [get?_cons, if_neg hs, hget]
      · rw [set, if_neg hs, hset, List.cons_append]
      · rw [erase, if_neg hs, herase, List.cons_append]

theorem get?_erase (h : attrs.Lowered) (hn : (attrs.map (·.1)).Nodup) (name other : String) :
    get? (erase name attrs) other =
      if Ascii.same other name then none else get? attrs other := by
  by_cases hm : Ascii.lower name ∈ attrs.map (·.1)
  · obtain ⟨front, old, back, hsplit, -, -, herase⟩ := exists_place h hm
    by_cases ho : Ascii.same other name
    · have hrest : Ascii.lower name ∉ (erase name attrs).map (·.1) := by
        rw [hsplit, List.map_append, List.map_cons, List.nodup_middle, List.nodup_cons] at hn
        rw [herase, List.map_append]
        exact hn.1
      rw [if_pos ho, get?_congr ho, get?_of_not_mem (lowered_erase h) hrest]
    · have hne : ¬ Ascii.same (Ascii.lower name) other := by
        rwa [Ascii.same_lower, Ascii.same_comm]
      rw [if_neg ho, herase, hsplit, get?_append, get?_append, get?_cons, if_neg hne]
  · rw [erase_of_not_mem h hm]
    split
    · next ho => rw [get?_congr ho, get?_of_not_mem h hm]
    · rfl

theorem nodup_set (h : attrs.Lowered) (hn : (attrs.map (·.1)).Nodup) :
    ((set name value attrs).map (·.1)).Nodup := by
  by_cases hm : Ascii.lower name ∈ attrs.map (·.1)
  · obtain ⟨front, old, back, hsplit, -, hset, -⟩ := exists_place h hm
    rw [hsplit, List.map_append, List.map_cons] at hn
    rwa [hset, List.map_append, List.map_cons]
  · rw [set_of_not_mem h hm, List.map_append, List.map_cons, List.map_nil,
      ← List.concat_eq_append]
    exact hn.concat hm

theorem erase_sublist (name : String) (attrs : Attributes) : (erase name attrs).Sublist attrs := by
  induction attrs with
  | nil => exact .slnil
  | cons attr attrs ih =>
    rw [erase]
    split
    · exact List.sublist_cons_self attr attrs
    · exact ih.cons_cons attr

theorem lowered_apply (h : attrs.Lowered) (c : Call) : (attrs.apply c).Lowered := by
  cases c with
  | set name value => exact lowered_set h
  | remove name => exact lowered_erase h

theorem nodup_apply (h : attrs.Lowered) (hn : (attrs.map (·.1)).Nodup) (c : Call) :
    ((attrs.apply c).map (·.1)).Nodup := by
  cases c with
  | set name value => exact nodup_set h hn
  | remove name => exact hn.sublist ((erase_sublist name attrs).map _)

theorem distinct_foldl (calls : List Call) (h : attrs.Lowered) (hn : (attrs.map (·.1)).Nodup) :
    (calls.foldl apply attrs).Lowered ∧ ((calls.foldl apply attrs).map (·.1)).Nodup := by
  induction calls generalizing attrs with
  | nil => exact ⟨h, hn⟩
  | cons c calls ih => exact ih (lowered_apply h c) (nodup_apply h hn c)

theorem isMap_of_distinct (h : attrs.Lowered) (hn : (attrs.map (·.1)).Nodup) : attrs.IsMap where
  tidy := ⟨hn, fun attr hm c hc => by
    rw [← h attr hm] at hc
    exact Ascii.isUpper_of_mem_lower hc⟩
  isSome_get?_iff := fun _ => isSome_get?_iff h
  get?_set := get?_set attrs
  get?_erase := get?_erase h hn
  place := fun _ => exists_place h
  set_new := fun _ _ => set_of_not_mem h
  erase_new := fun _ => erase_of_not_mem h

theorem isMap_run (calls : List Call) : (run calls).IsMap :=
  let ⟨h, hn⟩ := distinct_foldl calls lowered_nil List.nodup_nil
  isMap_of_distinct h hn

def Call.edit (id : NodeId) : Call → Edit
  | .set name value => .setAttribute id name value
  | .remove name => .removeAttribute id name

end Attributes

namespace Tree

variable {t : Tree} {id : NodeId} {tag : String} {attrs : Attributes}

/-- An element of a tree with its attributes: what it shows of them, and what calls on it do. -/
structure Carries (t : Tree) (id : NodeId) (tag : String) (attrs : Attributes) : Prop where
  content? : t.content? id = some (.element tag attrs)
  attr : ∀ name, t.adapter.attr id name = attrs.get? name
  attrNames : t.adapter.attrNames id = attrs.map (·.1)
  setAttribute : ∀ name value, ∃ u, t.setAttribute id name value = .ok u ∧
    u.content? id = some (.element tag (attrs.set name value))
  removeAttribute : ∀ name, ∃ u, t.removeAttribute id name = .ok (u, attrs.get? name) ∧
    u.content? id = some (.element tag (attrs.erase name))

theorem exists_updateAttrs (h : t.content? id = some (.element tag attrs))
    (f : Attributes → Attributes) :
    ∃ u, t.updateAttrs id f = .ok u ∧ u.content? id = some (.element tag (f attrs)) := by
  obtain ⟨n, hn, hc⟩ := Option.map_eq_some_iff.mp h
  refine ⟨t.update id fun n => { n with content := .element tag (f attrs) }, ?_, ?_⟩
  · simp only [updateAttrs, hn, hc]
  · rw [content?, get?_update, if_pos rfl, hn]
    rfl

theorem carries_of_content? (h : t.content? id = some (.element tag attrs)) :
    t.Carries id tag attrs := by
  obtain ⟨n, hn, hc⟩ := Option.map_eq_some_iff.mp h
  have hattrs : n.attrs = attrs := by rw [Node.attrs, hc]
  constructor
  case content? => exact h
  case attr =>
    intro name
    change (t.get? id).bind (Attributes.get? ·.attrs name) = _
    rw [hn, Option.bind_some, hattrs]
  case attrNames =>
    change ((t.get? id).map (·.attrs.map (·.1))).getD [] = _
    rw [hn, Option.map_some, Option.getD_some, hattrs]
  case setAttribute => exact fun name value => exists_updateAttrs h (Attributes.set name value)
  case removeAttribute =>
    intro name
    obtain ⟨u, hu, hcontent⟩ := exists_updateAttrs h (Attributes.erase name)
    refine ⟨u, ?_, hcontent⟩
    rw [removeAttribute, hu, hn, Option.map_some, Option.bind_some, hattrs]
    rfl

theorem content?_run (calls : List Attributes.Call)
    (h : t.content? id = some (.element tag attrs)) :
    (t.run (calls.map (·.edit id))).content? id =
      some (.element tag (calls.foldl Attributes.apply attrs)) := by
  induction calls generalizing t attrs with
  | nil => exact h
  | cons c calls ih =>
    have hstep : (t.apply (c.edit id)).content? id = some (.element tag (attrs.apply c)) := by
      cases c with
      | set name value =>
        obtain ⟨u, hu, hcontent⟩ := (carries_of_content? h).setAttribute name value
        rw [Attributes.Call.edit, apply_setAttribute, hu]
        exact hcontent
      | remove name =>
        obtain ⟨u, hu, hcontent⟩ := (carries_of_content? h).removeAttribute name
        rw [Attributes.Call.edit, apply_removeAttribute, hu]
        exact hcontent
    exact ih hstep

/-- The attributes of a new element are a map after any calls, and they are what the element has in
its tree. -/
theorem carries_run (t : Tree) (tag : String) (calls : List Attributes.Call) :
    (Attributes.run calls).IsMap ∧
      ((t.createElement tag []).1.run (calls.map (·.edit ⟨t.size⟩))).Carries ⟨t.size⟩
        (Ascii.lower tag) (Attributes.run calls) := by
  have hnew : (t.createElement tag []).1.content? ⟨t.size⟩ =
      some (.element (Ascii.lower tag) []) := content?_create.trans (if_pos rfl)
  exact ⟨Attributes.isMap_run calls, carries_of_content? (content?_run calls hnew)⟩

end Tree

end Live

end HeadAudit

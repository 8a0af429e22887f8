import HeadAudit.Live.Document
import HeadAudit.Proofs.Live.Forest
import HeadAudit.Proofs.Live.Steps

namespace HeadAudit.Live

inductive HandleEdit where
  | append (parent child : Handle)
  | insertBefore (parent child : Handle) (reference : Option Handle)
  | remove (node : Handle)
  | setAttribute (node : Handle) (name value : String)
  | removeAttribute (node : Handle) (name : String)
  | setText (node : Handle) (s : String)

namespace HandleEdit

def handles : HandleEdit → List Handle
  | .append parent child => [parent, child]
  | .insertBefore parent child reference => parent :: child :: reference.toList
  | .remove node | .setAttribute node _ _ | .removeAttribute node _ | .setText node _ => [node]

def map (f : Handle → Handle) : HandleEdit → HandleEdit
  | .append parent child => .append (f parent) (f child)
  | .insertBefore parent child reference => .insertBefore (f parent) (f child) (reference.map f)
  | .remove node => .remove (f node)
  | .setAttribute node name value => .setAttribute (f node) name value
  | .removeAttribute node name => .removeAttribute (f node) name
  | .setText node s => .setText (f node) s

/-- The steps of a call on the tree of its document, and its answer: the value that a removed
attribute had. A node without a parent is not taken out. -/
def steps : HandleEdit → Tree.Steps (Option String)
  | .append parent child => do
    Tree.Steps.appendChild parent.id child.id
    return none
  | .insertBefore parent child reference => do
    Tree.Steps.insertBefore parent.id child.id (reference.map (·.id))
    return none
  | .remove node => do
    if let some parent := (← get).parent? node.id then Tree.Steps.removeChild parent node.id
    return none
  | .setAttribute node name value => do
    Tree.Steps.setAttribute node.id name value
    return none
  | .removeAttribute node name => Tree.Steps.removeAttribute node.id name
  | .setText node s => do
    Tree.Steps.setText node.id s
    return none

end HandleEdit

namespace Tree

variable {t : Tree} {p c id : NodeId} {reference : Option NodeId}

theorem insertBefore_of_not_contains {x : NodeId} (hx : x ∈ p :: c :: reference.toList)
    (h : t.contains x = false) : ∃ e, t.insertBefore p c reference = .error e := by
  rw [insertBefore]
  cases he : t.insertError? p c reference with
  | some e => exact ⟨e, rfl⟩
  | none =>
    obtain ⟨hp, hc, -, hr⟩ := allowed_of_insertError? he
    have hall : ∀ y ∈ p :: c :: reference.toList, t.contains y = true := by
      rw [List.forall_mem_cons, List.forall_mem_cons]
      exact ⟨hp, hc, fun y hy => hr y (Option.mem_toList.mp hy)⟩
    exact absurd (hall x hx) (Bool.eq_false_iff.mp h)

def refusal (t : Tree) (id : NodeId) : EditError :=
  if id = ⟨t.size⟩ then .hierarchy id id else .notFound id

/-- A new node goes under none that was not there before it, itself included. -/
theorem appendChild_create (content : Content) (h : t.contains id = false) :
    (t.create content).1.appendChild id (t.create content).2 = .error (t.refusal id) := by
  have he : (t.create content).1.insertError? id ⟨t.size⟩ none = some (t.refusal id) := by
    unfold insertError?
    by_cases hid : id = ⟨t.size⟩
    · have hself : (t.create content).1.isInclusiveAncestor ⟨t.size⟩ ⟨t.size⟩ = true :=
        decide_eq_true (self_mem_lineage (Nat.succ_pos _))
      simp [contains_create, refusal, hid, hself]
    · simp [contains_create, refusal, hid, h]
  have hnew : (t.create content).2 = ⟨t.size⟩ := rfl
  rw [appendChild, insertBefore, hnew, he]

theorem updateAttrs_of_not_contains (h : t.contains id = false) (f : Attributes → Attributes) :
    t.updateAttrs id f = .error (.notFound id) := by
  rw [updateAttrs, (t.contains_eq_false_iff id).mp h]

theorem parent?_of_not_contains (h : t.contains id = false) : t.parent? id = none := by
  rw [parent?, (t.contains_eq_false_iff id).mp h]
  rfl

theorem children_of_not_contains (ha : t.contains .absent = false) (h : t.contains id = false) :
    t.children id = [] := by
  rw [children, (t.contains_eq_false_iff id).mp h, Option.map_none, Option.getD_none]
  cases t.size with
  | zero => rfl
  | succ n => rw [chain, (t.contains_eq_false_iff .absent).mp ha]

/-- No node loses its children, but the text is made. -/
theorem setText_of_not_contains (ha : t.contains .absent = false) (h : t.contains id = false)
    (s : String) : t.setText id s =
      if s.isEmpty then (t, .ok ()) else ((t.createText s).1, .error (t.refusal id)) := by
  rw [setText, children_of_not_contains ha h, List.foldl_nil]
  by_cases hs : s.isEmpty
  · rw [if_pos hs, if_pos hs]
  · rw [if_neg hs, if_neg hs]
    simp only [createText, appendChild_create (.text s) h]

end Tree

namespace Document

def edit (d : Document) (e : HandleEdit) : Document × Except EditError (Option String) :=
  match e.steps.run d.tree with
  | .ok answer t => (d.withTree t, .ok answer)
  | .error e t => (d.withTree t, .error e)

/-- Make a call on the document with a key. Documents of one key share their tree; that the others
keep theirs is how the call is defined, and nothing to be proved. -/
def editAmong (key : Nat) (e : HandleEdit) (docs : List Document) : List Document :=
  docs.map fun d => if d.key = key then (d.edit e).1 else d

/-- What a call does, whichever documents its handles are from. -/
structure EditsById (d : Document) (e : HandleEdit) : Prop where
  owned : d.edit e = d.edit (e.map fun h => d.handle h.id)
  /-- No node stands in for one that is not there. -/
  spared : ∀ h ∈ e.handles, d.tree.contains h.id = false →
    ∀ id, d.tree.contains id → (d.edit e).1.tree.get? id = d.tree.get? id
  missed : ∀ h ∈ e.handles, d.tree.contains h.id = false →
    (∀ s, s ≠ "" → e ≠ .setText h s) → (d.edit e).1 = d

variable {d : Document} {e : HandleEdit}

theorem edit_map (f : Handle → Handle) (hf : ∀ h, (f h).id = h.id) :
    d.edit (e.map f) = d.edit e := by
  have hsteps : (e.map f).steps = e.steps := by
    cases e <;> simp only [HandleEdit.map, HandleEdit.steps, hf, Option.map_map, Function.comp_def]
  rw [edit, edit, hsteps]

def settled (d : Document) :
    Except EditError (Document × Option String) → Document × Except EditError (Option String)
  | .ok (d, answer) => (d, .ok answer)
  | .error e => (d, .error e)

section Calls

variable {parent child node : Handle} {reference : Option Handle} {name value s : String}

theorem edit_of_settled {r : Except EditError (Tree × Option String)}
    (h : e.steps.run d.tree = HeadAudit.settled d.tree r) :
    d.edit e = d.settled (r.map fun (t, answer) => (d.withTree t, answer)) := by
  rw [edit, h]
  cases r <;> rfl

theorem edit_of_change {change : Tree.Steps Unit} {r : Except EditError Tree}
    (he : e.steps.run d.tree = (do change; return none : Tree.Steps (Option String)).run d.tree)
    (h : change.run d.tree = HeadAudit.settled d.tree (r.map (·, ()))) :
    d.edit e = d.settled ((r.map d.withTree).map (·, none)) := by
  rw [edit_of_settled (he.trans (run_answer_of_settled h none))]
  cases r <;> rfl

theorem edit_append : d.edit (.append parent child) =
    d.settled ((d.append parent child).map (·, none)) :=
  edit_of_change rfl Tree.Steps.run_appendChild

theorem edit_insertBefore : d.edit (.insertBefore parent child reference) =
    d.settled ((d.insertBefore parent child reference).map (·, none)) :=
  edit_of_change rfl Tree.Steps.run_insertBefore

theorem edit_remove : d.edit (.remove node) = d.settled ((d.remove node).map (·, none)) := by
  rw [remove]
  cases hp : d.tree.parent? node.id with
  | none =>
    rw [edit, HandleEdit.steps, run_bind_of_ok (EStateM.run_get d.tree), hp]
    rfl
  | some parent =>
    refine edit_of_change ?_ Tree.Steps.run_removeChild
    rw [HandleEdit.steps, run_bind_of_ok (EStateM.run_get d.tree), hp]

theorem edit_setAttribute : d.edit (.setAttribute node name value) =
    d.settled ((d.setAttribute node name value).map (·, none)) :=
  edit_of_change rfl Tree.Steps.run_setAttribute

theorem edit_removeAttribute : d.edit (.removeAttribute node name) =
    d.settled (d.removeAttribute node name) :=
  edit_of_settled (e := .removeAttribute node name) Tree.Steps.run_removeAttribute

theorem edit_setText : d.edit (.setText node s) =
    ((d.setText node s).1, (d.setText node s).2.map fun _ => none) := by
  rw [edit, HandleEdit.steps, EStateM.run_bind, Tree.Steps.run_setText, setText]
  obtain ⟨t, r⟩ := d.tree.setText node.id s
  cases r <;> rfl

end Calls

theorem edit_of_not_contains (ha : d.tree.contains .absent = false) {h : Handle}
    (hh : h ∈ e.handles) (hc : d.tree.contains h.id = false) :
    (d.edit e).1 = d ∨
      ∃ s, e = .setText h s ∧ s ≠ "" ∧ (d.edit e).1 = d.withTree (d.tree.createText s).1 := by
  cases e with
  | append parent child =>
    left
    have hx : h.id ∈ parent.id :: child.id :: (none : Option NodeId).toList :=
      List.mem_map_of_mem (f := Handle.id) hh
    obtain ⟨e, he⟩ := Tree.insertBefore_of_not_contains hx hc
    rw [edit_append, append, Tree.appendChild, he]
    rfl
  | insertBefore parent child reference =>
    left
    have hx : h.id ∈ parent.id :: child.id :: (reference.map (·.id)).toList := by
      have := List.mem_map_of_mem (f := Handle.id) hh
      cases reference <;> exact this
    obtain ⟨e, he⟩ := Tree.insertBefore_of_not_contains hx hc
    rw [edit_insertBefore, insertBefore, he]
    rfl
  | remove node =>
    left
    cases List.mem_singleton.mp hh
    rw [edit_remove, remove, Tree.parent?_of_not_contains hc]
    rfl
  | setAttribute node name value =>
    left
    cases List.mem_singleton.mp hh
    rw [edit_setAttribute, setAttribute, Tree.setAttribute, Tree.updateAttrs_of_not_contains hc]
    rfl
  | removeAttribute node name =>
    left
    cases List.mem_singleton.mp hh
    rw [edit_removeAttribute, removeAttribute, Tree.removeAttribute,
      Tree.updateAttrs_of_not_contains hc]
    rfl
  -- Only here is something made before the missing node is noticed.
  | setText node s =>
    cases List.mem_singleton.mp hh
    have ht : (d.edit (.setText h s)).1 = d.withTree (d.tree.setText h.id s).1 := by
      rw [edit_setText]
      rfl
    rw [Tree.setText_of_not_contains ha hc] at ht
    by_cases hs : s.isEmpty
    · left
      rw [ht, if_pos hs]
      rfl
    · right
      refine ⟨s, rfl, ?_, by rw [ht, if_neg hs]⟩
      rintro rfl
      exact hs rfl

/-- An edit takes every handle by its id. The other document is out of its reach by definition. -/
theorem editsById_of_ne (d other : Document) (hk : other.key ≠ d.key)
    (hs : d.tree.size < 2 ^ 32 - 1) (e : HandleEdit) :
    editAmong d.key e [d, other] = [(d.edit e).1, other] ∧ d.EditsById e := by
  have ha : d.tree.contains .absent = false := by
    rw [Bool.eq_false_iff, ne_eq, Tree.contains_iff_lt]
    exact hs.le.not_gt
  refine ⟨?_, ?_, ?_, ?_⟩
  · rw [editAmong, List.map_cons, List.map_singleton, if_pos rfl, if_neg hk]
  · rw [edit_map]
    exact fun h => rfl
  · intro h hh hc id hid
    obtain he | ⟨s, -, -, he⟩ := edit_of_not_contains ha hh hc
    · rw [he]
    · rw [he]
      exact Tree.get?_create.trans (if_neg (Tree.ne_of_contains hid Tree.not_contains_fresh))
  · intro h hh hc hno
    obtain he | ⟨s, he, hs, -⟩ := edit_of_not_contains ha hh hc
    · exact he
    · exact absurd he (hno s hs)

def titled : Document := ((empty 0).appendToHead "title" []).1

def described : Document := ((empty 1).appendToHead "meta" []).1

theorem editsById_of_ne_titled :
    described.key ≠ titled.key ∧ titled.tree.size < 2 ^ 32 - 1 ∧
      titled.edit (.remove (described.handle ⟨4⟩)) = titled.edit (.remove (titled.handle ⟨4⟩)) ∧
      editAmong titled.key (.append (titled.handle ⟨2⟩) (described.handle ⟨9⟩))
        [titled, described] = [titled, described] := by
  have hk : described.key ≠ titled.key := by decide +kernel
  have hs : titled.tree.size < 2 ^ 32 - 1 := by decide +kernel
  obtain ⟨-, hremove⟩ := editsById_of_ne titled described hk hs (.remove (described.handle ⟨4⟩))
  obtain ⟨hothers, happend⟩ := editsById_of_ne titled described hk hs
    (.append (titled.handle ⟨2⟩) (described.handle ⟨9⟩))
  refine ⟨hk, hs, hremove.owned, ?_⟩
  rw [hothers, happend.missed (described.handle ⟨9⟩) _ (by decide +kernel) nofun]
  exact List.mem_cons_of_mem _ (List.mem_singleton.mpr rfl)

/-- The handle is taken for the title, which is removed. -/
theorem not_unchanged_titled :
    ¬ ∀ d other : Document, other.key ≠ d.key → ∀ e : HandleEdit,
      (∃ h ∈ e.handles, h.key = other.key) → (d.edit e).1.tree = d.tree := by
  intro h
  have hsame := h titled described (by decide +kernel) (.remove (described.handle ⟨4⟩))
    ⟨_, List.mem_singleton.mpr rfl, rfl⟩
  have hgone : (titled.edit (.remove (described.handle ⟨4⟩))).1.tree ≠ titled.tree := by
    decide +kernel
  exact hgone hsame

end Document

end HeadAudit.Live

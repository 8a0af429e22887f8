import HeadAudit.Proofs.Live.Forest
import HeadAudit.Proofs.Live.Steps

namespace HeadAudit.Live

/-- One call of an operation that makes or changes nodes. -/
inductive Edit where
  | createElement (tag : String) (attrs : List (String × String))
  | createText (s : String)
  | createComment (s : String)
  | appendChild (parent child : NodeId)
  | insertBefore (parent child : NodeId) (reference : Option NodeId)
  | removeChild (parent child : NodeId)
  | setAttribute (id : NodeId) (name value : String)
  | removeAttribute (id : NodeId) (name : String)
  | setText (id : NodeId) (s : String)

namespace Edit

def made? : Edit → Option Content
  | .createElement tag attrs => some (.element (Ascii.lower tag) (Attributes.setAll [] attrs))
  | .createText s => some (.text s)
  | .createComment s => some (.comment s)
  | .setText _ s => if s.isEmpty then none else some (.text s)
  | _ => none

def host? : Edit → Option NodeId
  | .appendChild p _ | .insertBefore p _ _ => some p
  | .setText id s => if s.isEmpty then none else some id
  | _ => none

def rewrite? : Edit → Option (Attributes → Attributes)
  | .setAttribute _ name value => some (Attributes.set name value)
  | .removeAttribute _ name => some (Attributes.erase name)
  | _ => none

def steps : Edit → Tree.Steps Unit
  | .createElement tag attrs => modify fun t => (t.createElement tag attrs).1
  | .createText s => modify fun t => (t.createText s).1
  | .createComment s => modify fun t => (t.createComment s).1
  | .appendChild parent child => Tree.Steps.appendChild parent child
  | .insertBefore parent child reference => Tree.Steps.insertBefore parent child reference
  | .removeChild parent child => Tree.Steps.removeChild parent child
  | .setAttribute id name value => Tree.Steps.setAttribute id name value
  | .removeAttribute id name => do let _ ← Tree.Steps.removeAttribute id name
  | .setText id s => Tree.Steps.setText id s

variable {e : Edit} {content : Content} {f : Attributes → Attributes}

theorem made?_cases (h : e.made? = some content) :
    (∃ tag attrs, content = .element (Ascii.lower tag) (Attributes.setAll [] attrs)) ∨
      (∃ s, content = .text s) ∨ ∃ s, content = .comment s := by
  cases e with
  | createElement tag attrs => exact .inl ⟨tag, attrs, (Option.some.inj h).symm⟩
  | createText s => exact .inr (.inl ⟨s, (Option.some.inj h).symm⟩)
  | createComment s => exact .inr (.inr ⟨s, (Option.some.inj h).symm⟩)
  | setText id s =>
    obtain ⟨-, h⟩ := Option.ite_none_left_eq_some.mp h
    exact .inr (.inl ⟨s, (Option.some.inj h).symm⟩)
  | _ => cases h

theorem rewrite?_cases (h : e.rewrite? = some f) :
    (∃ name value, f = Attributes.set name value) ∨ ∃ name, f = Attributes.erase name := by
  cases e with
  | setAttribute id name value => exact .inl ⟨name, value, (Option.some.inj h).symm⟩
  | removeAttribute id name => exact .inr ⟨name, (Option.some.inj h).symm⟩
  | _ => cases h

end Edit

namespace Tree

open NodeId Relation

/-- The tree that a call leaves behind, also where one of its steps is refused. -/
def apply (t : Tree) (e : Edit) : Tree := stateAfter e.steps t

def run (t : Tree) (edits : List Edit) : Tree := edits.foldl apply t

variable {t u : Tree} {p c d id : NodeId} {reference : Option NodeId} {f : Attributes → Attributes}

theorem insertBefore_eq_ok_iff : t.insertBefore p c reference = .ok u ↔
    t.insertError? p c reference = none ∧
      u = if reference = some c then t else (t.detach c).attach p c reference := by
  rw [insertBefore]
  cases t.insertError? p c reference <;> simp [eq_comm]

theorem removeChild_eq_ok (h : t.removeChild p c = .ok u) : u = t.detach c := by
  rw [removeChild] at h
  split at h
  · simp at h
  · split at h
    · exact (Except.ok.inj h).symm
    · simp at h

theorem updateAttrs_eq_ok (h : t.updateAttrs id f = .ok u) :
    ∃ g : Node → Node, (∀ n, g n = { n with content := (g n).content }) ∧ u = t.update id g := by
  rw [updateAttrs] at h
  split at h
  · simp at h
  · split at h
    · exact ⟨_, fun n => rfl, (Except.ok.inj h).symm⟩
    · simp at h

theorem content?_insertBefore (h : t.insertBefore p c reference = .ok u) :
    u.content? d = t.content? d := by
  obtain ⟨-, rfl⟩ := insertBefore_eq_ok_iff.mp h
  split
  · rfl
  · rw [content?_attach, content?_detach]

theorem parent?_updateAttrs (h : t.updateAttrs id f = .ok u) (d : NodeId) :
    u.parent? d = t.parent? d := by
  obtain ⟨g, hg, rfl⟩ := updateAttrs_eq_ok h
  exact parent?_update hg d

theorem content?_updateAttrs (h : t.updateAttrs id f = .ok u) :
    u.content? d = t.content? d ∨
      ∃ tag attrs, t.content? d = some (.element tag attrs) ∧
        u.content? d = some (.element tag (f attrs)) := by
  rw [updateAttrs] at h
  split at h
  · cases h
  · next n hn =>
    split at h
    · next tag attrs hcontent =>
      obtain rfl := Except.ok.inj h
      rw [content?, content?, get?_update]
      split
      · next hd => exact .inr ⟨tag, attrs, by simp [hd, hn, hcontent], by simp [hd, hn]⟩
      · exact .inl rfl
    · cases h

section Atomic

theorem apply_insertBefore : t.apply (.insertBefore p c reference) =
    (t.insertBefore p c reference).toOption.getD t := by
  rw [apply, Edit.steps, stateAfter_of_settled Steps.run_insertBefore]
  cases t.insertBefore p c reference <;> rfl

theorem apply_appendChild : t.apply (.appendChild p c) = (t.appendChild p c).toOption.getD t :=
  apply_insertBefore

theorem apply_removeChild : t.apply (.removeChild p c) = (t.removeChild p c).toOption.getD t := by
  rw [apply, Edit.steps, stateAfter_of_settled Steps.run_removeChild]
  cases t.removeChild p c <;> rfl

theorem apply_setAttribute {name value : String} : t.apply (.setAttribute id name value) =
    (t.setAttribute id name value).toOption.getD t := by
  rw [apply, Edit.steps, stateAfter_of_settled Steps.run_setAttribute]
  cases t.setAttribute id name value <;> rfl

theorem apply_removeAttribute {name : String} : t.apply (.removeAttribute id name) =
    ((t.removeAttribute id name).toOption.map (·.1)).getD t := by
  rw [apply, Edit.steps, stateAfter, EStateM.run_bind, Steps.run_removeAttribute]
  cases t.removeAttribute id name <;> rfl

theorem apply_setText {s : String} : t.apply (.setText id s) = (t.setText id s).1 := by
  rw [apply, Edit.steps, stateAfter, Steps.run_setText]
  obtain ⟨u, r⟩ := t.setText id s
  cases r <;> rfl

end Atomic

/-- The four things that edits are made of. -/
inductive Change (t : Tree) : Tree → Prop where
  | create (content : Content) : Change t (t.create content).1
  | insert {p c : NodeId} {reference : Option NodeId} {u : Tree}
      (h : t.insertBefore p c reference = .ok u) : Change t u
  | detach (c : NodeId) : Change t (t.detach c)
  | update (id : NodeId) {g : Node → Node} (h : ∀ n, g n = { n with content := (g n).content }) :
      Change t (t.update id g)

def bare (t : Tree) (id : NodeId) : Tree := (t.children id).foldl Tree.detach t

/-- What holds as nodes are taken out holds of the tree without the children. -/
theorem bare_induction {P : Tree → Prop} (id : NodeId) (ht : P t)
    (hdetach : ∀ u c, P u → P (u.detach c)) : P (t.bare id) := by
  rw [bare]
  induction t.children id generalizing t with
  | nil => exact ht
  | cons c ids ih => exact ih (hdetach t c ht)

theorem setText_eq (t : Tree) (id : NodeId) (s : String) : t.setText id s =
    if s.isEmpty then (t.bare id, .ok ())
    else match ((t.bare id).create (.text s)).1.appendChild id ⟨(t.bare id).size⟩ with
      | .ok u => (u, .ok ())
      | .error e => (((t.bare id).create (.text s)).1, .error e) := rfl

/-- What holds through the steps that an edit is made of holds of the tree that it leaves. -/
theorem apply_induction {P : Tree → Prop} (e : Edit) (ht : P t)
    (hcreate : ∀ u content, e.made? = some content → P u → P (u.create content).1)
    (hinsert : ∀ u v p c reference, e.host? = some p → u.insertBefore p c reference = .ok v →
      P u → P v)
    (hdetach : ∀ u c, P u → P (u.detach c))
    (hupdate : ∀ u v id f, e.rewrite? = some f → u.updateAttrs id f = .ok v → P u → P v) :
    P (t.apply e) := by
  -- A refused call leaves the tree as it was.
  have hok : ∀ {r : Except EditError Tree}, (∀ u, r = .ok u → P u) → P (r.toOption.getD t) := by
    intro r hr
    cases r with
    | error e => exact ht
    | ok u => exact hr u rfl
  cases e with
  | createElement tag attrs => exact hcreate t _ rfl ht
  | createText s => exact hcreate t _ rfl ht
  | createComment s => exact hcreate t _ rfl ht
  | appendChild p c =>
    rw [apply_appendChild]
    exact hok fun u hu => hinsert t u p c none rfl hu ht
  | insertBefore p c reference =>
    rw [apply_insertBefore]
    exact hok fun u hu => hinsert t u p c reference rfl hu ht
  | removeChild p c =>
    rw [apply_removeChild]
    apply hok
    intro u hu
    rw [removeChild_eq_ok hu]
    exact hdetach t c ht
  | setAttribute id name value =>
    rw [apply_setAttribute]
    exact hok fun u hu => hupdate t u id _ rfl hu ht
  | removeAttribute id name =>
    rw [apply_removeAttribute, removeAttribute]
    cases hu : t.updateAttrs id (Attributes.erase name) with
    | error e => exact ht
    | ok u => exact hupdate t u id _ rfl hu ht
  | setText id s =>
    -- The children are gone, and the text is made, before it is known whether it may go there.
    have hbare : P (t.bare id) := bare_induction id ht hdetach
    rw [apply_setText, setText_eq]
    split
    · exact hbare
    · next hs =>
      have hmade := hcreate _ (.text s) (if_neg hs) hbare
      split
      · next u hu => exact hinsert _ u id _ none (if_neg hs) hu hmade
      · exact hmade

theorem changes_apply (t : Tree) (e : Edit) : ReflTransGen Change t (t.apply e) := by
  apply apply_induction e .refl
  case hcreate => exact fun u content _ hu => hu.tail (.create content)
  case hinsert => exact fun u v p c reference _ hv hu => hu.tail (.insert hv)
  case hdetach => exact fun u c hu => hu.tail (.detach c)
  case hupdate =>
    intro u v id f _ hv hu
    obtain ⟨g, hg, rfl⟩ := updateAttrs_eq_ok hv
    exact hu.tail (.update id hg)

theorem changes_run (t : Tree) (edits : List Edit) : ReflTransGen Change t (t.run edits) := by
  induction edits generalizing t with
  | nil => exact .refl
  | cons e edits ih => exact (t.changes_apply e).trans (ih (t.apply e))

theorem Change.size_le (h : Change t u) : t.size ≤ u.size := by
  cases h with
  | create content => simp
  | insert h =>
    rw [(insertBefore_eq_ok_iff.mp h).2]
    split <;> simp
  | detach c => simp
  | update id h => simp

theorem size_le_of_changes (h : ReflTransGen Change t u) : t.size ≤ u.size := by
  induction h with
  | refl => exact le_refl _
  | tail _ hc ih => exact ih.trans hc.size_le

theorem Change.forest (h : Change t u) (ht : t.Forest t.children)
    (hs : u.size ≤ NodeId.absent.index) : u.Forest u.children := by
  cases h with
  | create content =>
    rw [size_create] at hs
    exact (ht.create (by omega)).children
  | insert h =>
    obtain ⟨hok, rfl⟩ := insertBefore_eq_ok_iff.mp h
    split
    · exact ht
    · next hne => exact (ht.attach hok hne).children
  | detach c => exact ht.detach.children
  | update id h => exact (ht.update h).children

theorem forest_of_changes (h : ReflTransGen Change t u) (ht : t.Forest t.children)
    (hs : u.size ≤ NodeId.absent.index) : u.Forest u.children := by
  induction h with
  | refl => exact ht
  | tail _ hc ih => exact hc.forest (ih (hc.size_le.trans hs)) hs

theorem get?_empty (d : NodeId) :
    Tree.empty.get? d = if d = .root then some { content := .document } else none := by
  cases d with
  | mk i => cases i <;> simp [Tree.empty, get?, NodeId.root]

theorem forest_empty : Tree.empty.Forest fun _ => [] := by
  have hp : ∀ d, Tree.empty.parent? d = none := fun d => by
    rw [parent?, get?_empty]
    split <;> rfl
  have ha : Tree.empty.get? .absent = none := rfl
  constructor
  case linked =>
    constructor
    case absent => exact ha
    case mem_iff => simp [hp]
    case contains_parent => simp [hp]
    case nodup => simp
    case after =>
      intro p front back hc hk
      obtain ⟨rfl, rfl⟩ := List.append_eq_nil_iff.mp hk.symm
      simp only [lastOf_nil, Tree.after, ha, get?_empty]
      split <;> rfl
    case before =>
      intro p front back hc hk
      obtain ⟨rfl, rfl⟩ := List.append_eq_nil_iff.mp hk.symm
      simp only [firstOf_nil, Tree.before, ha, get?_empty]
      split <;> rfl
    case loose =>
      intro d q hd hn
      obtain ⟨n, hn⟩ := (contains_iff _ d).mp hd
      rw [after_of_get? _ _ _ hn, before_of_get? _ _ _ hn]
      rw [get?_empty] at hn
      split at hn
      · cases hn
        exact ⟨rfl, rfl⟩
      · simp at hn
  case grounded => exact ⟨fun d => ⟨d, fun p hu => by simp [Under, hp] at hu⟩⟩
  case contains_root => rfl
  case root => rfl

theorem forest_of_run (edits : List Edit) (hs : (Tree.empty.run edits).size < 2 ^ 32 - 1) :
    (Tree.empty.run edits).Forest (Tree.empty.run edits).children :=
  forest_of_changes (Tree.empty.changes_run edits) forest_empty.children hs.le

/-- Nodes linked one behind the other: the walk over the links to the next sibling meets them in
this order and ends behind the last one, and their links back lead along the same way. -/
inductive Siblings (t : Tree) : (previous first : NodeId) → List NodeId → (last : NodeId) → Prop
  | nil {previous : NodeId} : Siblings t previous .absent [] previous
  | cons {previous id last : NodeId} {n : Node} {ids : List NodeId} (here : t.get? id = some n)
      (back : n.previous = previous) (rest : Siblings t id n.next ids last) :
      Siblings t previous id (id :: ids) last

theorem Linked.siblings {kids : NodeId → List NodeId} (h : t.Linked kids) {front back : List NodeId}
    (hk : kids p = front ++ back) :
    t.Siblings (lastOf front) (firstOf back) back (lastOf (front ++ back)) := by
  induction back generalizing front with
  | nil => simpa using Siblings.nil
  | cons c back ih =>
    obtain ⟨n, hn, -, hprev, hnext⟩ := h.links_of_mem hk
    have hcut : kids p = (front ++ [c]) ++ back := by simp [hk]
    have hrest := ih hcut
    rw [lastOf_concat, List.append_assoc, List.singleton_append, ← hnext] at hrest
    exact .cons hn hprev hrest

/-- What the links of a tree have to satisfy to describe trees of nodes. -/
structure Sound (t : Tree) : Prop where
  root : ∃ n, t.get? .root = some n ∧ n.parent = .absent
  chains_end : ∀ id, ∃ top, ReflTransGen t.Under id top ∧ t.parent? top = none
  acyclic : ∀ id, ¬ TransGen t.Under id id
  siblings : ∀ p n, t.get? p = some n →
    t.Siblings .absent n.firstChild (t.children p) n.lastChild
  nodup : ∀ p, (t.children p).Nodup
  mem_children : ∀ p c, t.contains p →
    (c ∈ t.children p ↔ ∃ n, t.get? c = some n ∧ n.parent = p)
  loose : ∀ c n, t.get? c = some n → n.parent = .absent →
    n.previous = .absent ∧ n.next = .absent

theorem Forest.sound (h : t.Forest t.children) : t.Sound where
  root := by
    obtain ⟨n, hn⟩ := (t.contains_iff _).mp h.contains_root
    refine ⟨n, hn, ?_⟩
    simpa [parent?, hn] using h.root
  chains_end := h.grounded.exists_top
  acyclic := h.grounded.irrefl
  siblings := fun p n hn => by
    rw [h.linked.firstChild_eq hn, h.linked.lastChild_eq hn]
    exact h.linked.siblings (List.nil_append (t.children p)).symm
  nodup := h.linked.nodup
  mem_children := fun p c hp => by
    rw [h.linked.mem_iff, parent?_eq_some_iff]
    simp [h.linked.ne_absent hp]
  loose := fun c n hn hp => (h.linked.links_of_loose hn (by simp [parent?, hn, hp])).2

/-- Whatever is done to an empty tree, and whether it is allowed or refused, the links stay sound as
long as the absent id is nobody's. -/
theorem sound_of_run (edits : List Edit) (hs : (Tree.empty.run edits).size < 2 ^ 32 - 1) :
    (Tree.empty.run edits).Sound := by
  have hs : (Tree.empty.run edits).size ≤ NodeId.absent.index := hs.le
  exact (forest_of_changes (Tree.empty.changes_run edits) forest_empty.children hs).sound

def restlessEdits : List Edit :=
  [.createElement "ul" [], .createElement "li" [], .createText "a", .createComment "b",
    .appendChild .root ⟨1⟩, .appendChild ⟨1⟩ ⟨2⟩, .appendChild ⟨1⟩ ⟨3⟩,
    .insertBefore ⟨1⟩ ⟨4⟩ (some ⟨3⟩), .insertBefore ⟨1⟩ ⟨3⟩ (some ⟨2⟩),
    .insertBefore ⟨1⟩ ⟨3⟩ (some ⟨3⟩), .appendChild ⟨2⟩ ⟨1⟩, .appendChild ⟨1⟩ .root,
    .removeChild .absent .root, .appendChild ⟨3⟩ ⟨2⟩, .setText ⟨9⟩ "c", .setText ⟨1⟩ "d",
    .removeChild ⟨1⟩ ⟨4⟩, .appendChild .absent ⟨4⟩]

theorem sound_of_run_restlessEdits :
    (Tree.empty.run restlessEdits).size < 2 ^ 32 - 1 ∧ (Tree.empty.run restlessEdits).Sound := by
  have hs : (Tree.empty.run restlessEdits).size < 2 ^ 32 - 1 := by decide +kernel
  exact ⟨hs, sound_of_run restlessEdits hs⟩

end Tree

end HeadAudit.Live

import HeadAudit.Proofs.Live.Edits
import HeadAudit.Proofs.Live.Handles
import HeadAudit.Proofs.Live.Total

namespace HeadAudit.Live

inductive CompositeEdit where
  | setText (node : Handle) (s : String)
  | appendToHead (tag : String) (attrs : List (String × String))

namespace CompositeEdit

def target (d : Document) : CompositeEdit → NodeId
  | .setText node _ => node.id
  | .appendToHead .. => d.head

/-- The node to be made; there is none for empty text. -/
def made? : CompositeEdit → Option Content
  | .setText _ s => if s.isEmpty then none else some (.text s)
  | .appendToHead tag attrs => some (.element (Ascii.lower tag) (Attributes.setAll [] attrs))

end CompositeEdit

namespace Tree

variable {t : Tree} {p c id : NodeId}

theorem Anchored.detach (h : t.Anchored) (c : NodeId) : (t.detach c).Anchored := by
  intro d q hu
  rw [contains_detach]
  exact h d q (under_of_detach hu)

theorem Anchored.setText (h : t.Anchored) (hid : t.contains id) (s : String) :
    (t.setText id s).2 = .ok () := by
  have ha : (t.bare id).Anchored := bare_induction id h fun _ c hu => hu.detach c
  have hid' : (t.bare id).contains id :=
    bare_induction (P := fun u => u.contains id) id hid fun _ _ hu => contains_detach.trans hu
  rw [setText_eq]
  split
  · rfl
  · obtain ⟨u, hu, -⟩ := ha.exists_append hid' (.text s)
    rw [hu]

end Tree

namespace Document

variable {d : Document} {c : CompositeEdit} {content : Content}

def compose (d : Document) : CompositeEdit → Document × Except EditError Unit
  | .setText node s => d.setText node s
  | .appendToHead tag attrs => (d.appendToHead tag attrs).map id (·.map fun _ => ())

/-- The documents before and after a node was made that stands nowhere. -/
structure LeftOver (d d' : Document) (content : Content) : Prop where
  new : d'.tree.get? ⟨d.tree.size⟩ = some { content }
  size : d'.tree.size = d.tree.size + 1
  kept : ∀ id, d.tree.contains id → d'.tree.get? id = d.tree.get? id
  others : d' = d.withTree d'.tree

/-- What comes of a call that is refused. -/
structure Refusals (d : Document) (c : CompositeEdit) : Prop where
  refused_iff : (∃ e, (d.compose c).2 = .error e) ↔
    (∃ content, c.made? = some content) ∧ d.tree.contains (c.target d) = false
  error : ∀ e, (d.compose c).2 = .error e → e = d.tree.refusal (c.target d)
  leftOver : ∀ e content, (d.compose c).2 = .error e → c.made? = some content →
    LeftOver d (d.compose c).1 content

theorem leftOver_create (d : Document) (content : Content) :
    LeftOver d (d.withTree (d.tree.create content).1) content where
  new := Tree.get?_create.trans (if_pos rfl)
  size := Tree.size_create
  kept := fun _ hid =>
    Tree.get?_create.trans (if_neg (Tree.ne_of_contains hid Tree.not_contains_fresh))
  others := rfl

theorem appendToHead_eq (d : Document) (tag : String) (attrs : List (String × String)) :
    d.appendToHead tag attrs =
      match (d.tree.createElement tag attrs).1.appendChild d.head ⟨d.tree.size⟩ with
      | .ok t => (d.withTree t, .ok (d.handle ⟨d.tree.size⟩))
      | .error e => (d.withTree (d.tree.createElement tag attrs).1, .error e) := by
  have happend : (d.createElement tag attrs).1.append
      ((d.createElement tag attrs).1.handle (d.createElement tag attrs).1.head)
      (d.createElement tag attrs).2 =
      ((d.tree.createElement tag attrs).1.appendChild d.head ⟨d.tree.size⟩).map
        (d.createElement tag attrs).1.withTree := rfl
  rw [appendToHead]
  simp only [happend]
  cases (d.tree.createElement tag attrs).1.appendChild d.head ⟨d.tree.size⟩ <;> rfl

theorem compose_of_not_contains (ha : d.tree.contains .absent = false)
    (hc : c.made? = some content) (h : d.tree.contains (c.target d) = false) :
    d.compose c = (d.withTree (d.tree.create content).1, .error (d.tree.refusal (c.target d))) := by
  cases c with
  | setText node s =>
    obtain ⟨hs, hc⟩ := Option.ite_none_left_eq_some.mp hc
    obtain rfl := Option.some.inj hc
    have hset : d.tree.setText node.id s =
        ((d.tree.createText s).1, .error (d.tree.refusal node.id)) :=
      (Tree.setText_of_not_contains ha h s).trans (if_neg hs)
    rw [compose, setText, hset]
    rfl
  | appendToHead tag attrs =>
    obtain rfl := Option.some.inj hc
    have happend : (d.tree.createElement tag attrs).1.appendChild d.head ⟨d.tree.size⟩ =
        .error (d.tree.refusal d.head) := Tree.appendChild_create _ h
    rw [compose, appendToHead_eq, happend]
    rfl

theorem compose_of_contains (ha : d.tree.Anchored) (h : d.tree.contains (c.target d)) :
    (d.compose c).2 = .ok () := by
  cases c with
  | setText node s => exact ha.setText h s
  | appendToHead tag attrs =>
    obtain ⟨u, hu, -⟩ :=
      ha.exists_append h (.element (Ascii.lower tag) (Attributes.setAll [] attrs))
    have happend : (d.tree.createElement tag attrs).1.appendChild d.head ⟨d.tree.size⟩ = .ok u := hu
    rw [compose, appendToHead_eq, happend]
    rfl

theorem compose_of_made?_eq_none (h : c.made? = none) : (d.compose c).2 = .ok () := by
  cases c with
  | setText node s =>
    have hs : s.isEmpty := by
      by_contra hs
      exact absurd ((if_neg hs).symm.trans h) nofun
    change (d.tree.setText node.id s).2 = .ok ()
    rw [Tree.setText, if_pos hs]
  | appendToHead tag attrs => cases h

theorem refusals_of_anchored (ha : d.tree.Anchored) (hn : d.tree.contains .absent = false)
    (c : CompositeEdit) : d.Refusals c := by
  have hrefused : ∀ e, (d.compose c).2 = .error e →
      ∃ content, c.made? = some content ∧ d.tree.contains (c.target d) = false := by
    intro e he
    cases hc : c.made? with
    | none => exact absurd ((compose_of_made?_eq_none hc).symm.trans he) nofun
    | some content =>
      refine ⟨content, rfl, Bool.eq_false_iff.mpr fun ht => ?_⟩
      exact absurd ((compose_of_contains ha ht).symm.trans he) nofun
  constructor
  case refused_iff =>
    constructor
    · rintro ⟨e, he⟩
      obtain ⟨content, hc, ht⟩ := hrefused e he
      exact ⟨⟨content, hc⟩, ht⟩
    · rintro ⟨⟨content, hc⟩, ht⟩
      exact ⟨_, congrArg Prod.snd (compose_of_not_contains hn hc ht)⟩
  case error =>
    intro e he
    obtain ⟨content, hc, ht⟩ := hrefused e he
    rw [compose_of_not_contains hn hc ht] at he
    exact (Except.error.inj he).symm
  case leftOver =>
    intro e content he hc
    obtain ⟨-, -, ht⟩ := hrefused e he
    rw [compose_of_not_contains hn hc ht]
    exact leftOver_create d content

/-- Whatever was done to the tree of a document before, a refused call leaves all nodes as they
were, and always one node more. -/
theorem refusals_of_run (edits : List Edit) (hs : (Tree.empty.run edits).size < 2 ^ 32 - 1)
    (d : Document) (hd : d.tree = Tree.empty.run edits) (c : CompositeEdit) : d.Refusals c := by
  have hf := Tree.forest_of_changes (Tree.empty.changes_run edits) Tree.forest_empty.children hs.le
  rw [← hd] at hf
  exact refusals_of_anchored (fun _ _ hu => hf.linked.contains_parent hu)
    hf.linked.not_contains_absent c

def headlessEdits : List Edit := [.createElement "ul" [], .appendChild .root ⟨1⟩]

def headless : Document := ofTree 0 (Tree.empty.run headlessEdits)

theorem refusals_of_run_headless :
    (Tree.empty.run headlessEdits).size < 2 ^ 32 - 1 ∧
      headless.tree = Tree.empty.run headlessEdits ∧
      (headless.compose (.appendToHead "title" [])).2 = .error (.notFound .absent) ∧
      LeftOver headless (headless.compose (.appendToHead "title" [])).1 (.element "title" []) ∧
      (headless.compose (.setText ⟨0, ⟨2⟩⟩ "x")).2 = .error (.hierarchy ⟨2⟩ ⟨2⟩) ∧
      LeftOver headless (headless.compose (.setText ⟨0, ⟨2⟩⟩ "x")).1 (.text "x") := by
  have hs : (Tree.empty.run headlessEdits).size < 2 ^ 32 - 1 := by decide +kernel
  have htitle := refusals_of_run headlessEdits hs headless rfl (.appendToHead "title" [])
  have htext := refusals_of_run headlessEdits hs headless rfl (.setText ⟨0, ⟨2⟩⟩ "x")
  have hrefused : (headless.compose (.appendToHead "title" [])).2 = .error (.notFound .absent) := by
    decide +kernel
  have hrefused' : (headless.compose (.setText ⟨0, ⟨2⟩⟩ "x")).2 = .error (.hierarchy ⟨2⟩ ⟨2⟩) := by
    decide +kernel
  exact ⟨hs, rfl, hrefused, htitle.leftOver _ _ hrefused (by decide +kernel), hrefused',
    htext.leftOver _ _ hrefused' (by decide +kernel)⟩

/-- The title is refused, as there is no head, and stays in the tree. -/
theorem not_intact_headless :
    ¬ ∀ edits : List Edit, (Tree.empty.run edits).size < 2 ^ 32 - 1 →
      ∀ d : Document, d.tree = Tree.empty.run edits → ∀ c e,
        (d.compose c).2 = .error e → (d.compose c).1.tree = d.tree := by
  intro h
  have hsame := h headlessEdits (by decide +kernel) headless rfl (.appendToHead "title" [])
    (.notFound .absent) (by decide +kernel)
  have hleft : (headless.compose (.appendToHead "title" [])).1.tree ≠ headless.tree := by
    decide +kernel
  exact hleft hsame

end Document

end HeadAudit.Live

import HeadAudit.Markup.Draft
import HeadAudit.Proofs.Markup.Outline

namespace HeadAudit.Markup.Draft

open List

variable {d e : Draft} {p q id : Nat} {content : Content} {c : Cell} {tag : String}
  {attrs : List (String × String)}

def Content.isFlat : Content → Bool
  | .doctype _ | .text _ | .comment _ => true
  | _ => false

def Flat (d : Draft) (p id : Nat) : Prop :=
  ∃ content, content.isFlat = true ∧ d.cells[id]? = some ⟨content, some p, []⟩

/-- A node under `p`: an element with no elements in it, or else a node without children. -/
inductive Leaf (d : Draft) (p id : Nat) : Option Kind → Prop where
  | flat (h : Flat d p id) : Leaf d p id none
  | element (tag : String) (attrs : List (String × String)) (ids : List Nat)
      (h : d.cells[id]? = some ⟨.element tag attrs none, some p, ids⟩)
      (hs : ∀ kid ∈ ids, Flat d id kid) : Leaf d p id (some (tag, attrs))

/-- One draft comes from another by new nodes under `p` and by longer texts. -/
structure Grows (d e : Draft) (p : Nat) (new : List Nat) : Prop where
  flat : ∀ {q id}, Flat d q id → Flat e q id
  other : ∀ {id c}, d.cells[id]? = some c → c.content.isFlat = false → id ≠ p →
    e.cells[id]? = some c
  self : ∀ {c}, d.cells[p]? = some c → c.content.isFlat = false →
    e.cells[p]? = some { c with children := c.children ++ new }

def append (d : Draft) (p : Nat) (content : Content) : Draft :=
  (d.add content).1.move (.under p) d.cells.size

theorem getElem?_modify (d : Draft) (p id : Nat) (f : Cell → Cell) :
    (d.modify p f).cells[id]? = if p = id then d.cells[id]?.map f else d.cells[id]? := by
  rw [modify, Array.getElem?_modify]

theorem detach_add (d : Draft) (content : Content) :
    (d.add content).1.detach d.cells.size = (d.add content).1 := by
  have h : (d.add content).1.parent? d.cells.size = none := by
    rw [parent?, add, Array.getElem?_push_size]
    rfl
  rw [detach, h]

theorem getElem?_append_self (h : p < d.cells.size) :
    (d.append p content).cells[d.cells.size]? = some ⟨content, some p, []⟩ := by
  rw [append, move, detach_add]
  dsimp only [Spot.parent?]
  rw [getElem?_modify, if_pos rfl, getElem?_modify, if_neg (Nat.ne_of_lt h), add,
    Array.getElem?_push_size]
  rfl

theorem getElem?_append_of_lt (h : id < d.cells.size) (hne : p ≠ id) :
    (d.append p content).cells[id]? = d.cells[id]? := by
  rw [append, move, detach_add]
  dsimp only [Spot.parent?]
  rw [getElem?_modify, if_neg (Nat.ne_of_gt h), getElem?_modify, if_neg hne, add,
    Array.getElem?_push_lt h, Array.getElem?_eq_getElem h]

theorem getElem?_append_parent (h : d.cells[p]? = some c) :
    (d.append p content).cells[p]? = some { c with children := c.children ++ [d.cells.size] } := by
  obtain ⟨hlt, hc⟩ := Array.getElem?_eq_some_iff.mp h
  rw [append, move, detach_add]
  dsimp only [Spot.parent?]
  rw [getElem?_modify, if_neg (Nat.ne_of_gt hlt), getElem?_modify, if_pos rfl, add,
    Array.getElem?_push_lt hlt, hc]
  rfl

theorem size_append (d : Draft) (p : Nat) (content : Content) :
    (d.append p content).cells.size = d.cells.size + 1 := by
  rw [append, move, detach_add]
  simp [modify, add, Spot.parent?]

theorem lt_of_getElem? (h : d.cells[id]? = some c) : id < d.cells.size :=
  (Array.getElem?_eq_some_iff.mp h).1

theorem grows_append (h : d.cells[p]? = some c) (hc : c.content.isFlat = false)
    (content : Content) : Grows d (d.append p content) p [d.cells.size] where
  flat := by
    rintro q id ⟨content', hf, hid⟩
    refine ⟨content', hf, ?_⟩
    rw [getElem?_append_of_lt (lt_of_getElem? hid) _, hid]
    rintro rfl
    rw [h] at hid
    cases hid
    rw [hf] at hc
    cases hc
  other := fun hid _ hne => by rw [getElem?_append_of_lt (lt_of_getElem? hid) (Ne.symm hne), hid]
  self := fun hp _ => getElem?_append_parent hp

theorem grows_longer {k : Nat} {t s : String} {parent : Option Nat} {kids : List Nat}
    (h : d.cells[k]? = some ⟨.text t, parent, kids⟩) (p : Nat) :
    Grows d (d.modify k fun c => { c with content := .text (t ++ s) }) p [] where
  flat := by
    rintro q id ⟨content, hf, hid⟩
    by_cases hk : k = id
    · subst hk
      refine ⟨.text (t ++ s), rfl, ?_⟩
      rw [getElem?_modify, if_pos rfl, hid]
      rfl
    · refine ⟨content, hf, ?_⟩
      rw [getElem?_modify, if_neg hk, hid]
  other := by
    intro id c hid hc _
    rw [getElem?_modify, if_neg _, hid]
    rintro rfl
    rw [h] at hid
    cases hid
    cases hc
  self := by
    intro c hp hc
    rw [getElem?_modify, if_neg _, hp, append_nil]
    rintro rfl
    rw [h] at hp
    cases hp
    cases hc

theorem exists_grows_insertText (h : d.cells[p]? = some c) (hc : c.content.isFlat = false)
    (s : String) :
    ∃ new, Grows d (d.insertText (.under p) s) p new ∧
      (∀ id ∈ new, Flat (d.insertText (.under p) s) p id) ∧
      d.cells.size ≤ (d.insertText (.under p) s).cells.size := by
  have hnew : (∃ k t parent kids, d.cells[k]? = some ⟨.text t, parent, kids⟩ ∧
      d.insertText (.under p) s = d.modify k fun c => { c with content := .text (t ++ s) }) ∨
      d.insertText (.under p) s = d.append p (.text s) := by
    rw [insertText]
    cases hprev : Spot.previous? d (.under p) with
    | none => exact .inr rfl
    | some k =>
      rw [Option.bind_some]
      split
      · rename_i t parent kids hk
        exact .inl ⟨k, t, parent, kids, hk, rfl⟩
      · exact .inr rfl
  rcases hnew with ⟨k, t, parent, kids, hk, he⟩ | he
  · rw [he]
    refine ⟨[], grows_longer hk p, fun id hm => absurd hm not_mem_nil, ?_⟩
    simp [modify]
  · rw [he]
    refine ⟨[d.cells.size], grows_append h hc _, fun id hm => ?_, ?_⟩
    · rw [mem_singleton.mp hm]
      exact ⟨.text s, rfl, getElem?_append_self (lt_of_getElem? h)⟩
    · rw [size_append]
      exact Nat.le_succ _

section Growth

variable {new : List Nat} {kind : Option Kind}

theorem Leaf.grows (h : Leaf d q id kind) (hg : Grows d e p new) (hne : id ≠ p) :
    Leaf e q id kind := by
  cases h with
  | flat h => exact .flat (hg.flat h)
  | element tag attrs ids h hs =>
    exact .element tag attrs ids (hg.other h rfl hne) fun kid hk => hg.flat (hs kid hk)

theorem Leaf.grows_flat (h : Leaf d q id kind) (hg : Grows d e p new)
    (hnew : ∀ id ∈ new, Flat e p id) : Leaf e q id kind := by
  by_cases hne : id = p
  · subst hne
    cases h with
    | flat h => exact .flat (hg.flat h)
    | element tag attrs ids h hs =>
      refine .element tag attrs (ids ++ new) (hg.self h rfl) fun kid hk => ?_
      rcases mem_append.mp hk with hk | hk
      · exact hg.flat (hs kid hk)
      · exact hnew kid hk
  · exact h.grows hg hne

theorem Leaf.parent_eq (h : Leaf d p id kind) (hc : d.cells[id]? = some c) : c.parent = some p := by
  cases h with
  | flat h =>
    obtain ⟨content, -, hid⟩ := h
    rw [hid] at hc
    cases hc
    rfl
  | element tag attrs ids h _ =>
    rw [h] at hc
    cases hc
    rfl

end Growth

section Nodes

variable {kind : Option Kind}

theorem Flat.exists_node (h : Flat d p id) :
    ∃ n : Node, n.isElement = false ∧ ∀ fuel, d.node? (fuel + 1) id = some n := by
  obtain ⟨content, hf, hid⟩ := h
  cases content with
  | doctype name => exact ⟨.doctype name, rfl, fun fuel => by rw [node?, hid]; rfl⟩
  | text s => exact ⟨.text s, rfl, fun fuel => by rw [node?, hid]; rfl⟩
  | comment s => exact ⟨.comment s, rfl, fun fuel => by rw [node?, hid]; rfl⟩
  | root => cases hf
  | element tag attrs template => cases hf

theorem exists_flatNodes {ids : List Nat} (h : ∀ kid ∈ ids, Flat d id kid) :
    ∃ ns : List Node, (∀ n ∈ ns, n.isElement = false) ∧
      ∀ fuel, ids.filterMap (d.node? (fuel + 1)) = ns := by
  induction ids with
  | nil => exact ⟨[], fun n hn => absurd hn not_mem_nil, fun fuel => rfl⟩
  | cons kid ids ih =>
    obtain ⟨n, hn, hf⟩ := (h kid mem_cons_self).exists_node
    obtain ⟨ns, hns, hfs⟩ := ih fun other ho => h other (mem_cons_of_mem kid ho)
    refine ⟨n :: ns, forall_mem_cons.mpr ⟨hn, hns⟩, fun fuel => ?_⟩
    rw [filterMap_cons_some (hf fuel), hfs]

theorem Leaf.exists_node (h : Leaf d p id kind) :
    ∃ n : Node, n.IsLeaf kind ∧ ∀ fuel, d.node? (fuel + 2) id = some n := by
  cases h with
  | flat h =>
    obtain ⟨n, hn, hf⟩ := h.exists_node
    exact ⟨n, .flat hn, fun fuel => hf (fuel + 1)⟩
  | element tag attrs ids h hs =>
    obtain ⟨ns, hns, hf⟩ := exists_flatNodes hs
    refine ⟨.element tag attrs ns [], .element hns, fun fuel => ?_⟩
    rw [node?, h, ← hf fuel]
    rfl

theorem exists_leafNodes {ids : List Nat} {kinds : List (Option Kind)}
    (h : Forall₂ (Leaf d p) ids kinds) :
    ∃ ns : List Node, Forall₂ Node.IsLeaf ns kinds ∧
      ∀ fuel, ids.filterMap (d.node? (fuel + 2)) = ns := by
  induction h with
  | nil => exact ⟨[], .nil, fun fuel => rfl⟩
  | cons hk _ ih =>
    obtain ⟨n, hn, hf⟩ := hk.exists_node
    obtain ⟨ns, hns, hfs⟩ := ih
    refine ⟨n :: ns, .cons hn hns, fun fuel => ?_⟩
    rw [filterMap_cons_some (hf fuel), hfs]

structure Spine where
  front : List Nat
  root : Nat
  inner : List Nat
  head : Nat
  items : List Nat
  late : List Nat

/-- The draft holds such a page, with elements of the given kinds in its head and behind it. -/
structure Spine.In (s : Spine) (d : Draft) (rootAttrs headAttrs : List (String × String))
    (kinds late : List (Option Kind)) : Prop where
  top : d.cells[0]? = some ⟨.root, none, s.front ++ [s.root]⟩
  front : ∀ id ∈ s.front, Flat d 0 id
  root : d.cells[s.root]? =
    some ⟨.element "html" rootAttrs none, some 0, s.inner ++ s.head :: s.late⟩
  inner : ∀ id ∈ s.inner, Flat d s.root id
  head : d.cells[s.head]? = some ⟨.element "head" headAttrs none, some s.root, s.items⟩
  items : Forall₂ (Leaf d s.head) s.items kinds
  late : Forall₂ (fun id kind => id ≠ s.head ∧ Leaf d s.root id kind) s.late late

namespace Spine.In

variable {s : Spine} {e : Draft} {rootAttrs headAttrs : List (String × String)} {c : Cell}
  {kinds late : List (Option Kind)} {new : List Nat} {content : Content}

theorem root_ne_top (h : s.In d rootAttrs headAttrs kinds late) : s.root ≠ 0 := by
  intro he
  have hr := h.root
  rw [he, h.top] at hr
  cases hr

theorem head_ne_top (h : s.In d rootAttrs headAttrs kinds late) : s.head ≠ 0 := by
  intro he
  have hr := h.head
  rw [he, h.top] at hr
  cases hr

theorem root_ne_head (h : s.In d rootAttrs headAttrs kinds late) : s.root ≠ s.head := by
  intro he
  have hr := h.root
  rw [he, h.head] at hr
  simp at hr

theorem ne_of_leaf {p : Nat} (h : d.cells[id]? = some c) (hp : c.parent ≠ some p) {x : Nat}
    (hx : Leaf d p x kind) : x ≠ id := by
  rintro rfl
  exact hp (hx.parent_eq h)

theorem grows_flat (h : s.In d rootAttrs headAttrs kinds late) (hg : Grows d e p new)
    (hp : p ∉ [0, s.root, s.head]) (hnew : ∀ id ∈ new, Flat e p id) :
    s.In e rootAttrs headAttrs kinds late where
  top := hg.other h.top rfl fun he => hp (by simp [← he])
  front := fun id hid => hg.flat (h.front id hid)
  root := hg.other h.root rfl fun he => hp (by simp [← he])
  inner := fun id hid => hg.flat (h.inner id hid)
  head := hg.other h.head rfl fun he => hp (by simp [← he])
  items := h.items.imp fun _ _ hl => hl.grows_flat hg hnew
  late := h.late.imp fun _ _ hl => hl.imp_right fun hl => hl.grows_flat hg hnew

theorem grows_head (h : s.In d rootAttrs headAttrs kinds late) (hg : Grows d e s.head new)
    {newKinds : List (Option Kind)}
    (hnew : Forall₂ (Leaf e s.head) new newKinds) :
    { s with items := s.items ++ new }.In e rootAttrs headAttrs (kinds ++ newKinds) late where
  top := hg.other h.top rfl h.head_ne_top.symm
  front := fun id hid => hg.flat (h.front id hid)
  root := hg.other h.root rfl h.root_ne_head
  inner := fun id hid => hg.flat (h.inner id hid)
  head := hg.self h.head rfl
  items := by
    have hroot : (some s.root : Option Nat) ≠ some s.head := by simpa using h.root_ne_head
    exact rel_append (h.items.imp fun _ _ hl => hl.grows hg (ne_of_leaf h.head hroot hl)) hnew
  late := h.late.imp fun _ _ hl => ⟨hl.1, hl.2.grows hg hl.1⟩

theorem grows_root (h : s.In d rootAttrs headAttrs kinds late) (hg : Grows d e s.root new)
    {newKinds : List (Option Kind)}
    (hnew : Forall₂ (fun id kind => id ≠ s.head ∧ Leaf e s.root id kind) new newKinds) :
    { s with late := s.late ++ new }.In e rootAttrs headAttrs kinds (late ++ newKinds) where
  top := hg.other h.top rfl h.root_ne_top.symm
  front := fun id hid => hg.flat (h.front id hid)
  root := by
    rw [hg.self h.root rfl]
    simp
  inner := fun id hid => hg.flat (h.inner id hid)
  head := hg.other h.head rfl h.root_ne_head.symm
  items := by
    have htop : (some 0 : Option Nat) ≠ some s.head := by simpa using h.head_ne_top.symm
    exact h.items.imp fun _ _ hl => hl.grows hg (ne_of_leaf h.root htop hl)
  late := by
    have htop : (some 0 : Option Nat) ≠ some s.root := by simpa using h.root_ne_top.symm
    refine rel_append (h.late.imp fun _ _ hl => ⟨hl.1, ?_⟩) hnew
    exact hl.2.grows hg (ne_of_leaf h.root htop hl.2)

theorem exists_outline (h : s.In d rootAttrs headAttrs kinds late) (hsize : 4 ≤ d.cells.size) :
    ∃ o : Outline, d.document = o.document ∧ Forall₂ Node.IsLeaf o.items kinds ∧
      Forall₂ Node.IsLeaf o.latter late := by
  obtain ⟨front, hfront, hf⟩ := exists_flatNodes h.front
  obtain ⟨inner, hinner, hi⟩ := exists_flatNodes h.inner
  obtain ⟨items, hitems, hit⟩ := exists_leafNodes h.items
  obtain ⟨latter, hlatter, hl⟩ := exists_leafNodes (h.late.imp fun _ _ hl => hl.2)
  -- the way down to the text of an element in the head takes four steps
  obtain ⟨fuel, hfuel⟩ : ∃ fuel, d.cells.size = fuel + 4 := ⟨d.cells.size - 4, by omega⟩
  refine ⟨⟨front, rootAttrs, inner, headAttrs, items, latter, hfront, hinner⟩, ?_, hitems,
    hlatter⟩
  have hhead : d.node? (fuel + 3) s.head = some (.element "head" headAttrs items []) := by
    rw [node?, h.head, ← hit fuel]
    rfl
  have hroot : d.node? (fuel + 4) s.root = some (.element "html" rootAttrs
      (inner ++ .element "head" headAttrs items [] :: latter) []) := by
    have hkids : (s.inner ++ s.head :: s.late).filterMap (d.node? (fuel + 3)) =
        inner ++ .element "head" headAttrs items [] :: latter := by
      rw [filterMap_append, hi, filterMap_cons_some hhead, hl]
    rw [node?, h.root, ← hkids]
    rfl
  have htop : d.children 0 = s.front ++ [s.root] := by
    rw [children, h.top]
    rfl
  rw [document, htop, hfuel, filterMap_append, hf, filterMap_cons_some hroot]
  rfl

end Spine.In

end Nodes

end HeadAudit.Markup.Draft

import HeadAudit.Proofs.Markup.Drafting

namespace HeadAudit.Markup.Draft

open List

def Content.tag? : Content → Option String
  | .element tag _ _ => some tag
  | _ => none

def tag? (d : Draft) (id : Nat) : Option (Option String) := d.cells[id]?.map (·.content.tag?)

def IsElement (d : Draft) (id : Nat) : Prop := ∃ tag, d.tag? id = some (some tag)

/-- The element `r` comes before all others, and `h` is a head directly in it. -/
structure Headed (r h : Nat) (d : Draft) : Prop where
  document : d.tag? 0 = some none
  root : d.tag? r = some (some "html")
  head : d.tag? h = some (some "head")
  top : ∃ front back, d.children 0 = front ++ r :: back ∧ ∀ id ∈ front, d.tag? id = some none
  under : h ∈ d.children r
  root_only : ∀ p, r ∈ d.children p → p = 0
  head_only : ∀ p, h ∈ d.children p → p = r

/-- Changes of a draft after which `r` and `h` are where they were. -/
structure Keeps (r h : Nat) (d e : Draft) : Prop where
  tag? : ∀ {id t}, d.tag? id = some t → e.tag? id = some t
  root_mem : ∀ p, r ∈ e.children p ↔ r ∈ d.children p
  head_mem : ∀ p, h ∈ e.children p ↔ h ∈ d.children p
  top : ∀ {front back}, d.children 0 = front ++ r :: back → (∀ id ∈ front, d.tag? id = some none) →
    ∃ front' back', e.children 0 = front' ++ r :: back' ∧ front' ⊆ front

variable {d e f : Draft} {r h id p q : Nat} {content : Content} {tag : String} {spot : Spot}

namespace Keeps

theorem refl (r h : Nat) (d : Draft) : Keeps r h d d where
  tag? := fun ht => ht
  root_mem := fun _ => .rfl
  head_mem := fun _ => .rfl
  top := fun ht _ => ⟨_, _, ht, fun _ hm => hm⟩

theorem trans (hd : Keeps r h d e) (he : Keeps r h e f) : Keeps r h d f where
  tag? := fun ht => he.tag? (hd.tag? ht)
  root_mem := fun p => (he.root_mem p).trans (hd.root_mem p)
  head_mem := fun p => (he.head_mem p).trans (hd.head_mem p)
  top := by
    intro front back ht hf
    obtain ⟨front', back', ht', hsub⟩ := hd.top ht hf
    obtain ⟨front'', back'', ht'', hsub'⟩ := he.top ht' fun id hm => hd.tag? (hf id (hsub hm))
    exact ⟨front'', back'', ht'', fun id hm => hsub (hsub' hm)⟩

theorem isElement (hd : Keeps r h d e) (hid : d.IsElement id) : e.IsElement id :=
  hid.imp fun _ ht => hd.tag? ht

theorem headed (hd : Keeps r h d e) (hh : Headed r h d) : Headed r h e where
  document := hd.tag? hh.document
  root := hd.tag? hh.root
  head := hd.tag? hh.head
  top := by
    obtain ⟨front, back, ht, hf⟩ := hh.top
    obtain ⟨front', back', ht', hsub⟩ := hd.top ht hf
    exact ⟨front', back', ht', fun id hm => hd.tag? (hf id (hsub hm))⟩
  under := (hd.head_mem r).mpr hh.under
  root_only := fun p hm => hh.root_only p ((hd.root_mem p).mp hm)
  head_only := fun p hm => hh.head_only p ((hd.head_mem p).mp hm)

/-- New lists of children in which `r` and `h` stand where they stood. -/
theorem of_children (htag : ∀ id, e.tag? id = d.tag? id)
    (hmem : ∀ p, ∀ x ∈ [r, h], x ∈ e.children p ↔ x ∈ d.children p)
    (htop : ∀ {front back}, d.children 0 = front ++ r :: back →
      (∀ id ∈ front, d.tag? id = some none) →
      ∃ front' back', e.children 0 = front' ++ r :: back' ∧ front' ⊆ front) : Keeps r h d e where
  tag? := fun ht => (htag _).trans ht
  root_mem := fun p => hmem p r (mem_cons_self ..)
  head_mem := fun p => hmem p h (mem_cons_of_mem _ (mem_singleton.mpr rfl))
  top := htop

theorem of_same (htag : ∀ id, e.tag? id = d.tag? id) (hc : ∀ p, e.children p = d.children p) :
    Keeps r h d e :=
  of_children htag (fun p x _ => by rw [hc]) fun ht _ =>
    ⟨_, _, (hc 0).trans ht, fun _ hm => hm⟩

end Keeps

theorem tag?_modify {g : Cell → Cell} (hg : ∀ c, (g c).content.tag? = c.content.tag?) :
    (d.modify p g).tag? id = d.tag? id := by
  rw [tag?, getElem?_modify, tag?]
  split
  · simp only [Option.map_map, Function.comp_def, hg]
  · rfl

theorem children_modify {g : Cell → Cell} (hg : ∀ c, (g c).children = c.children) :
    (d.modify p g).children id = d.children id := by
  rw [children, getElem?_modify, children]
  split
  · simp only [Option.map_map, Function.comp_def, hg]
  · rfl

theorem children_modify_children (place : List Nat → List Nat) :
    (d.modify p fun c => { c with children := place c.children }).children q =
      if p = q ∧ q < d.cells.size then place (d.children q) else d.children q := by
  rw [children, getElem?_modify, children]
  by_cases hq : q < d.cells.size
  · by_cases hp : p = q <;> simp [hp, hq]
  · by_cases hp : p = q <;> simp [hp, hq]

theorem keeps_modify {g : Cell → Cell} (ht : ∀ c, (g c).content.tag? = c.content.tag?)
    (hc : ∀ c, (g c).children = c.children) : Keeps r h d (d.modify p g) :=
  .of_same (fun _ => tag?_modify ht) fun _ => children_modify hc

theorem lt_of_tag? {t : Option String} (ht : d.tag? id = some t) : id < d.cells.size := by
  obtain ⟨c, hc, -⟩ := Option.map_eq_some_iff.mp ht
  exact lt_of_getElem? hc

theorem tag?_add_of_lt (hid : id < d.cells.size) : (d.add content).1.tag? id = d.tag? id := by
  rw [tag?, add, Array.getElem?_push_lt hid, tag?, Array.getElem?_eq_getElem hid]

theorem tag?_add : (d.add content).1.tag? d.cells.size = some content.tag? := by
  rw [tag?, add, Array.getElem?_push_size]
  rfl

theorem children_add : (d.add content).1.children p = d.children p := by
  rw [children, add, children, Array.getElem?_push]
  split
  · next hp => simp [hp]
  · rfl

theorem keeps_add (content : Content) : Keeps r h d (d.add content).1 where
  tag? := fun ht => (tag?_add_of_lt (lt_of_tag? ht)).trans ht
  root_mem := fun p => by rw [children_add]
  head_mem := fun p => by rw [children_add]
  top := fun ht _ => ⟨_, _, children_add.trans ht, fun _ hm => hm⟩

theorem children_append_of_ne (hne : p ≠ q) : (d.append p content).children q = d.children q := by
  rw [append, move, detach_add]
  dsimp only [Spot.parent?]
  rw [children_modify (g := fun c => { c with parent := some p }) fun _ => rfl,
    children_modify_children (· ++ [d.cells.size]), if_neg fun h => hne h.1, children_add]

/-- The children of one node change, but not where `r` and `h` are among them. -/
theorem keeps_modify_children (place : List Nat → List Nat)
    (hmem : ∀ ids, ∀ x ∈ [r, h], x ∈ place ids ↔ x ∈ ids)
    (htop : ∀ front back, (∀ id ∈ front, d.tag? id = some none) →
      ∃ front' back', place (front ++ r :: back) = front' ++ r :: back' ∧ front' ⊆ front) :
    Keeps r h d (d.modify p fun c => { c with children := place c.children }) := by
  refine .of_children (fun _ => tag?_modify fun _ => rfl) (fun q x hx => ?_) fun ht hf => ?_
  · rw [children_modify_children]
    split
    · exact hmem _ x hx
    · rfl
  · rw [children_modify_children]
    split
    · rw [ht]
      exact htop _ _ hf
    · exact ⟨_, _, ht, fun _ hm => hm⟩

theorem keeps_setParent (parent : Option Nat) :
    Keeps r h d (d.modify id fun c => { c with parent }) :=
  keeps_modify (fun _ => rfl) fun _ => rfl

theorem keeps_detach (hr : id ≠ r) (hh : id ≠ h) : Keeps r h d (d.detach id) := by
  rw [detach]
  split
  · exact .refl r h d
  refine (keeps_modify_children (·.filter (· != id)) (fun ids x hx => ?_) ?_).trans
    (keeps_setParent none)
  · have hne : x ≠ id := by
      rcases mem_pair.mp hx with rfl | rfl
      · exact hr.symm
      · exact hh.symm
    simp [hne]
  · intro front back _
    refine ⟨front.filter (· != id), back.filter (· != id), ?_, filter_subset_self _⟩
    rw [filter_append, filter_cons_of_pos (by simpa using hr.symm)]

/-- Nothing that goes there goes in front of `r`. -/
def Spot.IsSafe (r : Nat) (d : Draft) : Spot → Prop
  | .under _ => True
  | .before sibling => d.IsElement sibling ∧ sibling ≠ r

theorem Spot.isSafe_under : (Spot.under p).IsSafe r d := trivial

theorem mem_insertInFrontOf {x y z : Nat} {ids : List Nat} :
    z ∈ insertInFrontOf x y ids ↔ z = x ∨ z ∈ ids := by
  induction ids with
  | nil => simp [insertInFrontOf]
  | cons w ids ih =>
    rw [insertInFrontOf]
    split
    · rw [mem_cons]
    · rw [mem_cons, ih, mem_cons, or_left_comm]

theorem insertInFrontOf_append {x y : Nat} {front back : List Nat} (h : y ∉ front) :
    insertInFrontOf x y (front ++ back) = front ++ insertInFrontOf x y back := by
  induction front with
  | nil => rfl
  | cons w front ih =>
    rw [mem_cons, not_or] at h
    rw [cons_append, insertInFrontOf, if_neg (by simpa using Ne.symm h.1), ih h.2, cons_append]

theorem keeps_move (hs : spot.IsSafe r d) (hr : id ≠ r) (hh : id ≠ h) :
    Keeps r h d (d.move spot id) := by
  have hne : ∀ x ∈ [r, h], x ≠ id := fun x hx => by
    rcases mem_pair.mp hx with rfl | rfl
    · exact hr.symm
    · exact hh.symm
  have hdetach := keeps_detach (d := d) hr hh
  unfold move
  refine hdetach.trans ?_
  cases spot with
  | under q =>
    refine (keeps_modify_children (· ++ [id]) (fun ids x hx => ?_) ?_).trans
      (keeps_setParent _)
    · simp [hne x hx]
    · exact fun front back _ => ⟨front, back ++ [id], by simp, fun _ hm => hm⟩
  | before sibling =>
    dsimp only
    split
    · exact .refl r h _
    obtain ⟨⟨tag, htag⟩, hsr⟩ := hs
    refine (keeps_modify_children (insertInFrontOf id sibling) (fun ids x hx => ?_)
      ?_).trans (keeps_setParent _)
    · rw [mem_insertInFrontOf, or_iff_right (hne x hx)]
    · intro front back hf
      have hsf : sibling ∉ front := fun hm => by
        have hnone := (hdetach.tag? htag).symm.trans (hf sibling hm)
        cases hnone
      refine ⟨front, insertInFrontOf id sibling back, ?_, fun _ hm => hm⟩
      rw [insertInFrontOf_append hsf, insertInFrontOf, if_neg (by simpa using hsr.symm)]

theorem keeps_moveChildren {source target : Nat} (hr : r ∉ d.children source)
    (hh : h ∉ d.children source) : Keeps r h d (d.moveChildren source target) := by
  rw [moveChildren]
  generalize d.children source = ids at hr hh
  induction ids generalizing d with
  | nil => exact .refl r h d
  | cons id ids ih =>
    rw [mem_cons, not_or] at hr hh
    exact (keeps_move Spot.isSafe_under (Ne.symm hr.1) (Ne.symm hh.1)).trans
      (ih hr.2 hh.2)

theorem Headed.keeps_wrap {block copy : Nat} (hd : Headed r h d) (h0 : block ≠ 0) (hb : block ≠ r)
    (hr : copy ≠ r) (hh : copy ≠ h) :
    Keeps r h d ((d.moveChildren block copy).move (.under block) copy) := by
  refine (keeps_moveChildren ?_ ?_).trans (keeps_move Spot.isSafe_under hr hh)
  · exact fun hin => h0 (hd.root_only _ hin)
  · exact fun hin => hb (hd.head_only _ hin)

theorem Spot.IsSafe.keeps (hs : spot.IsSafe r d) (hk : Keeps r h d e) : spot.IsSafe r e := by
  cases spot with
  | under q => trivial
  | before sibling => exact hs.imp_left hk.isElement

theorem keeps_insert (hs : spot.IsSafe r d) (hr : r < d.cells.size) (hh : h < d.cells.size)
    (content : Content) : Keeps r h d ((d.add content).1.move spot (d.add content).2) :=
  have hadd : Keeps r h d (d.add content).1 := keeps_add content
  hadd.trans (keeps_move (hs.keeps hadd) (Nat.ne_of_gt hr) (Nat.ne_of_gt hh))

theorem keeps_insertComment (hs : spot.IsSafe r d) (hr : r < d.cells.size)
    (hh : h < d.cells.size) (s : String) : Keeps r h d (d.insertComment spot s) :=
  keeps_insert hs hr hh (.comment s)

theorem keeps_insertText (hs : spot.IsSafe r d) (hr : r < d.cells.size) (hh : h < d.cells.size)
    (s : String) : Keeps r h d (d.insertText spot s) := by
  have hnew : Keeps r h d ((d.add (.text s)).1.move spot (d.add (.text s)).2) :=
    keeps_insert hs hr hh (.text s)
  rw [insertText]
  cases hp : spot.previous? d with
  | none => exact hnew
  | some k =>
    rw [Option.bind_some]
    split
    · next t parent kids hk =>
      refine .of_same (fun id => ?_) fun p => children_modify fun _ => rfl
      rw [Option.getD_some, tag?, getElem?_modify, tag?]
      split
      · next he => rw [← he, hk]; rfl
      · rfl
    · exact hnew

theorem children_addAttributes (extra : List (String × String)) :
    (d.addAttributes id extra).children p = d.children p := by
  refine children_modify fun c => ?_
  obtain ⟨content, parent, children⟩ := c
  cases content <;> rfl

theorem keeps_addAttributes (id : Nat) (extra : List (String × String)) :
    Keeps r h d (d.addAttributes id extra) := by
  refine .of_same (fun _ => tag?_modify fun c => ?_) fun _ => children_addAttributes extra
  obtain ⟨content, parent, children⟩ := c
  cases content <;> rfl

theorem keeps_addTemplate (attrs : List (String × String)) : Keeps r h d (d.addTemplate attrs).1 :=
  (keeps_add .root).trans (keeps_add _)

section Nodes

theorem node?_of_tag? (ht : d.tag? id = some (some tag)) (fuel : Nat) :
    ∃ attrs template, d.node? (fuel + 1) id =
      some (.element tag attrs ((d.children id).filterMap (d.node? fuel)) template) := by
  obtain ⟨⟨content, parent, children⟩, hc, htag⟩ := Option.map_eq_some_iff.mp ht
  cases content with
  | element tag' attrs template =>
    obtain rfl := Option.some.inj htag
    rw [node?, hc, Draft.children, hc]
    exact ⟨attrs, _, rfl⟩
  | _ => cases htag

theorem tag?_of_node? (ht : d.tag? id = some none) {fuel : Nat} {n : Node}
    (hn : d.node? fuel id = some n) : n.isElement = false := by
  obtain ⟨⟨content, parent, children⟩, hc, htag⟩ := Option.map_eq_some_iff.mp ht
  cases fuel with
  | zero => cases hn
  | succ fuel =>
    rw [node?, hc, Option.bind_some] at hn
    cases content with
    | element => cases htag
    | root => cases hn
    | _ =>
      obtain rfl := Option.some.inj hn
      rfl

/-- A draft with a head gives a document with a head. -/
theorem Headed.isSome_head? (hd : Headed r h d) : d.document.head?.isSome := by
  obtain ⟨front, back, htop, hfront⟩ := hd.top
  have hsize := lt_of_tag? hd.root
  have hr : r ≠ 0 := by
    rintro rfl
    exact absurd (hd.root.symm.trans hd.document) (by simp)
  obtain ⟨fuel, hfuel⟩ : ∃ fuel, d.cells.size = fuel + 2 := ⟨d.cells.size - 2, by omega⟩
  obtain ⟨rootAttrs, rootTemplate, hroot⟩ := node?_of_tag? hd.root (fuel + 1)
  obtain ⟨headAttrs, headTemplate, hhead⟩ := node?_of_tag? hd.head fuel
  generalize hns : front.filterMap (d.node? (fuel + 2)) = ns
  have hflat : ∀ n ∈ ns, n.isElement = false := by
    rw [← hns]
    intro n hn
    obtain ⟨id, hid, hn⟩ := mem_filterMap.mp hn
    exact tag?_of_node? (hfront id hid) hn
  have hnodes : d.document.nodes = ns ++ .element "html" rootAttrs
      ((d.children r).filterMap (d.node? (fuel + 1))) rootTemplate ::
        back.filterMap (d.node? (fuel + 2)) := by
    rw [Draft.document, htop, hfuel, filterMap_append, hns, filterMap_cons_some hroot]
  have hhtml : d.document.html? = some [.child ns.length] := by
    have hbelow : d.document.below [] = d.document.nodes := rfl
    rw [Document.html?, Document.childWithTag?, hbelow, hnodes, Outline.findIdx?_flat hflat]
    rfl
  have hkids : d.document.below [.child ns.length] =
      (d.children r).filterMap (d.node? (fuel + 1)) := by
    have hempty : [Step.child ns.length].isEmpty = false := rfl
    rw [Document.below, hempty, if_neg Bool.false_ne_true, Document.get?, hnodes,
      getElem?_append_right le_rfl, Nat.sub_self]
    rfl
  rw [Document.head?, hhtml, Option.bind_some, Document.childWithTag?, hkids, Option.isSome_map,
    findIdx?_isSome, any_eq_true]
  exact ⟨_, mem_filterMap.mpr ⟨h, hd.under, hhead⟩, by simp [Node.tag?]⟩

end Nodes

end HeadAudit.Markup.Draft

import HeadAudit.Proofs.Live.Attributes
import HeadAudit.Proofs.Live.Edits

namespace HeadAudit

namespace Ascii

theorem isUpper_of_mem_lower {s : String} {c : Char} (h : c ∈ (lower s).toList) :
    c.isUpper = false := by
  rw [toList_lower] at h
  obtain ⟨d, -, rfl⟩ := List.mem_map.mp h
  exact d.isUpper_toLower_eq_false

end Ascii

namespace Live

namespace Attributes

def Lowered (attrs : Attributes) : Prop := ∀ attr ∈ attrs, Ascii.lower attr.1 = attr.1

variable {attrs : Attributes} {name name' value : String}

theorem lowered_set (h : Lowered attrs) : Lowered (set name value attrs) := by
  induction attrs with
  | nil =>
    rw [set, Lowered, List.forall_mem_singleton]
    exact Ascii.lower_lower name
  | cons attr attrs ih =>
    rw [Lowered, List.forall_mem_cons] at h
    rw [set]
    split
    · exact List.forall_mem_cons.mpr h
    · exact List.forall_mem_cons.mpr ⟨h.1, ih h.2⟩

theorem lowered_erase (h : Lowered attrs) : Lowered (erase name attrs) := by
  induction attrs with
  | nil => exact h
  | cons attr attrs ih =>
    rw [Lowered, List.forall_mem_cons] at h
    rw [erase]
    split
    · exact h.2
    · exact List.forall_mem_cons.mpr ⟨h.1, ih h.2⟩

theorem lowered_setAll (more : List (String × String)) (h : Lowered attrs) :
    Lowered (setAll attrs more) := by
  induction more generalizing attrs with
  | nil => exact h
  | cons attr more ih => exact ih (lowered_set h)

theorem lowered_nil : Lowered [] := fun _ h => absurd h List.not_mem_nil

theorem get?_congr (h : Ascii.same name name') : get? attrs name = get? attrs name' := by
  rw [get?, get?]
  simp only [Ascii.same, beq_iff_eq] at h ⊢
  rw [h]

theorem isSome_get?_iff (h : Lowered attrs) :
    (get? attrs name).isSome ↔ Ascii.lower name ∈ attrs.map (·.1) := by
  rw [get?, Option.isSome_map, List.find?_isSome, List.mem_map]
  apply exists_congr
  intro attr
  apply and_congr_right
  intro hm
  rw [Ascii.same_iff, h attr hm]

end Attributes

def Content.Lowered : Content → Prop
  | .element tag attrs => Ascii.lower tag = tag ∧ attrs.Lowered
  | _ => True

namespace Tree

def Lowered (t : Tree) : Prop := ∀ d content, t.content? d = some content → content.Lowered

variable {t u : Tree} {p c d id : NodeId} {reference : Option NodeId}

theorem Lowered.of_content? (h : t.Lowered) (hc : ∀ d, u.content? d = t.content? d) :
    u.Lowered := fun d content hd => h d content ((hc d).symm.trans hd)

theorem Lowered.element {n : Node} {tag : String} {attrs : Attributes} (h : t.Lowered)
    (hn : t.get? d = some n) (hc : n.content = .element tag attrs) :
    Ascii.lower tag = tag ∧ attrs.Lowered :=
  h d (.element tag attrs) (by rw [content?, hn, Option.map_some, hc])

theorem Lowered.attrs {n : Node} (h : t.Lowered) (hn : t.get? d = some n) : n.attrs.Lowered := by
  rw [Node.attrs]
  split
  · next hc => exact (h.element hn hc).2
  · exact Attributes.lowered_nil

theorem Lowered.create {content : Content} (h : t.Lowered) (hc : content.Lowered) :
    (t.create content).1.Lowered := by
  intro d content' hd
  rw [content?_create] at hd
  split at hd
  · rwa [← Option.some.inj hd]
  · exact h d content' hd

theorem Lowered.updateAttrs {f : Attributes → Attributes} (h : t.Lowered)
    (hf : ∀ attrs, attrs.Lowered → (f attrs).Lowered) (hu : t.updateAttrs id f = .ok u) :
    u.Lowered := by
  intro d content hd
  rcases content?_updateAttrs (d := d) hu with he | ⟨tag, attrs, ht, he⟩
  · exact h d content (he.symm.trans hd)
  · obtain ⟨htag, hattrs⟩ := h d _ ht
    obtain rfl := Option.some.inj (he.symm.trans hd)
    exact ⟨htag, hf attrs hattrs⟩

theorem Lowered.apply (h : t.Lowered) (e : Edit) : (t.apply e).Lowered := by
  apply apply_induction e h
  case hcreate =>
    intro u content hc hu
    apply hu.create
    rcases Edit.made?_cases hc with ⟨tag, attrs, rfl⟩ | ⟨s, rfl⟩ | ⟨s, rfl⟩
    · exact ⟨Ascii.lower_lower tag, Attributes.lowered_setAll attrs Attributes.lowered_nil⟩
    · trivial
    · trivial
  case hinsert =>
    exact fun u v p c reference _ hv hu => hu.of_content? fun _ => content?_insertBefore hv
  case hdetach => exact fun u c hu => hu.of_content? fun d => content?_detach
  case hupdate =>
    intro u v id f hf hv hu
    refine hu.updateAttrs (fun attrs ha => ?_) hv
    rcases Edit.rewrite?_cases hf with ⟨name, value, rfl⟩ | ⟨name, rfl⟩
    · exact Attributes.lowered_set ha
    · exact Attributes.lowered_erase ha

theorem Lowered.run (h : t.Lowered) (edits : List Edit) : (t.run edits).Lowered := by
  induction edits generalizing t with
  | nil => exact h
  | cons e edits ih => exact ih (h.apply e)

theorem lowered_empty : Tree.empty.Lowered := by
  intro d content hd
  rw [content?, get?_empty] at hd
  split at hd
  · rw [← Option.some.inj hd]
    trivial
  · cases hd

end Tree

end Live

end HeadAudit

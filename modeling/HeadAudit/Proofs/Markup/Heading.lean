import HeadAudit.Proofs.Markup.PlainHead
import HeadAudit.Proofs.Markup.Reading

namespace HeadAudit.Markup

namespace Draft

open List

variable {d : Draft} {s : Spine} {rootAttrs headAttrs : List (String × String)}
  {kinds : List (Option Kind)} {p id : Nat} {c : Cell}

theorem Flat.tag?_eq (h : Flat d p id) : d.tag? id = some none := by
  obtain ⟨content, hf, hid⟩ := h
  rw [tag?, hid]
  cases content with
  | element => cases hf
  | _ => rfl

theorem children_of_getElem? (h : d.cells[id]? = some c) : d.children id = c.children := by
  rw [children, h]
  rfl

namespace Spine.In

variable (h : s.In d rootAttrs headAttrs kinds [])
  (hc : ∀ p, p ≠ 0 → p ≠ s.root → p ≠ s.head → d.children p = [])

include h hc

/-- Where no other node has children, every child knows its parent. -/
theorem parent_eq (hm : id ∈ d.children p) (hid : d.cells[id]? = some c) : c.parent = some p := by
  have hflat : ∀ {q}, Flat d q id → c.parent = some q := fun hf => (Leaf.flat hf).parent_eq hid
  by_cases h0 : p = 0
  · subst h0
    rw [children_of_getElem? h.top, mem_append, mem_singleton] at hm
    rcases hm with hm | rfl
    · exact hflat (h.front id hm)
    · rw [h.root] at hid
      exact Option.some.inj hid ▸ rfl
  by_cases hr : p = s.root
  · subst hr
    rw [children_of_getElem? h.root, forall₂_nil_right_iff.mp h.late, mem_append,
      mem_singleton] at hm
    rcases hm with hm | rfl
    · exact hflat (h.inner id hm)
    · rw [h.head] at hid
      exact Option.some.inj hid ▸ rfl
  by_cases hh : p = s.head
  · subst hh
    rw [children_of_getElem? h.head] at hm
    obtain ⟨kind, hzip⟩ := exists_mem_zip h.items.length_eq hm
    exact (forall₂_zip h.items hzip).parent_eq hid
  · rw [hc p h0 hr hh] at hm
    cases hm

theorem headed : Headed s.root s.head d where
  document := by
    rw [tag?, h.top]
    rfl
  root := by
    rw [tag?, h.root]
    rfl
  head := by
    rw [tag?, h.head]
    rfl
  top := ⟨s.front, [], children_of_getElem? h.top, fun id hid => (h.front id hid).tag?_eq⟩
  under := by
    rw [children_of_getElem? h.root]
    exact mem_append_right _ mem_cons_self
  root_only := fun p hm => (Option.some.inj (h.parent_eq hc hm h.root)).symm
  head_only := fun p hm => (Option.some.inj (h.parent_eq hc hm h.head)).symm

end Spine.In

end Draft

namespace Builder

open List Draft

/-- Only the document and what stands open have children, and no formatting is kept. -/
structure Lone (b : Builder) : Prop where
  marks : b.marks = []
  children : ∀ p ≠ 0, (∀ o ∈ b.opened, o.id ≠ p) → b.draft.children p = []

inductive Early (b : Builder) : Prop where
  | top (h : AtTop b) (hl : Lone b)
  | root (h : AtRoot b) (hl : Lone b)

/-- The head is there for good, or it is still to come. -/
def Heads (b : Builder) : Prop := Early b ∨ ∃ r h, b.Seated none r h

variable {b : Builder} {tag : Tag} {m : TextMode} {elements : Elements}

namespace Lone

theorem append (hl : Lone b) (content : Content) :
    Lone { b with draft := b.draft.append b.parent content } where
  marks := hl.marks
  children := fun p h0 hp => by
    refine (children_append_of_ne ?_).trans (hl.children p h0 hp)
    rw [parent]
    cases hcur : b.current? with
    | none => exact h0.symm
    | some o => exact hp o (mem_of_mem_head? hcur)

theorem insert (hl : Lone b) (hc : Calm b) (hp : Plain b) (ht : tag.name ≠ "template") :
    Lone (b.insert tag) := by
  rw [hc.insert_eq hp ht]
  have happ := hl.append (.element tag.name tag.attrs none)
  exact ⟨hl.marks, fun p h0 hn => happ.children p h0 fun o ho => hn o (mem_cons_of_mem _ ho)⟩

end Lone

theorem InHead.exists_seated (h : InHead b m elements) (hl : Lone b) :
    ∃ r h, b.Seated none r h := by
  obtain ⟨s, rootAttrs, headAttrs, kinds, ho, hs, -⟩ := h.draft
  have hheaded : Headed s.root s.head b.draft := by
    refine hs.headed fun p h0 hr hh => hl.children p h0 ?_
    rw [ho]
    exact forall_mem_cons.mpr ⟨hh.symm, forall_mem_singleton.mpr hr.symm⟩
  refine ⟨s.root, s.head, hheaded, ?_, ?_, ?_, ?_⟩
  · simp [ho, html, Opened.isHtml, Opened.isIn]
  · simp [hl.marks]
  · rw [ho, pairwise_pair]
    exact fun _ _ _ => .inl rfl
  · simp [ho, html, hs.head_ne_top, hs.root_ne_top]

section BeforeHead

theorem AtTop.parent_eq (h : AtTop b) : b.parent = 0 := by
  rw [parent, current?, h.opened]
  rfl

theorem AtTop.early_append (h : AtTop b) (hl : Lone b) {content : Content}
    (hf : content.isFlat = true) {mode : Mode} (hm : mode = .initial ∨ mode = .beforeHtml) :
    Early { b with draft := b.draft.append 0 content, mode } := by
  have happ := hl.append content
  rw [h.parent_eq] at happ
  exact .top (h.append content hf hm) ⟨happ.marks, happ.children⟩

theorem AtTop.early_insertRoot (h : AtTop b) (hl : Lone b) (attrs : List (String × String)) :
    Early ((b.insertRoot attrs).into .beforeHead) :=
  have hlone : Lone (b.insertRoot attrs) := hl.insert h.toCalm h.plain (by simp)
  .root (h.insertRoot attrs) ⟨hlone.marks, hlone.children⟩

theorem AtTop.early_readByMode (h : AtTop b) (hl : Lone b) (t : Token) :
    Early (b.readByMode t).builder := by
  have hsame : Early b := .top h hl
  have hcomment : ∀ s, Early (b.addTopComment s) := fun s => h.early_append hl rfl h.mode
  have hold : Early ({ b with isOldPage := true }.into .beforeHtml) :=
    .top ⟨⟨h.skipBreak, h.fostering, h.templateModes⟩, h.textMode, .inr rfl, h.opened, h.draft⟩
      ⟨hl.marks, hl.children⟩
  have hcreate := h.early_insertRoot hl []
  rw [readByMode]
  rcases h.mode with hm | hm <;> rw [hm]
  · cases t with
    | blank s => exact hsame
    | comment s => exact hcomment s
    | _ => exact hold
  · cases t with
    | blank s => exact hsame
    | comment s => exact hcomment s
    | opening tag =>
      simp only [readBeforeHtml]
      split
      · exact h.early_insertRoot hl tag.attrs
      · exact hcreate
    | closing name =>
      simp only [readBeforeHtml]
      split
      · exact hcreate
      · exact hsame
    | _ => exact hcreate

theorem AtTop.early_readDoctype (h : AtTop b) (hl : Lone b) (d : Doctype) :
    Early (b.readDoctype d) := by
  rw [readDoctype]
  split
  · have hearly :
        Early { b with draft := b.draft.append 0 (.doctype d.name), mode := .beforeHtml } :=
      h.early_append hl rfl (.inr rfl)
    cases hearly with
    | top h hl => exact .top { h with } ⟨hl.marks, hl.children⟩
    | root h hl => cases h.mode
  · exact .top h hl

theorem AtRoot.addRootAttributes_eq (h : AtRoot b) (tag : Tag) :
    b.addRootAttributes tag = { b with draft := b.draft.addAttributes b.parent tag.attrs } := by
  obtain ⟨root, attrs, front, inner, ho, -⟩ := h.draft
  have hnone : b.holds "template" = false := by
    rw [holds, ho, any_cons, isHtml_html root (by decide)]
    rfl
  rw [addRootAttributes, hnone, if_neg Bool.false_ne_true, parent_of_opened ho, ho]
  rfl

theorem AtRoot.addAttributes (h : AtRoot b) (extra : List (String × String)) :
    AtRoot { b with draft := b.draft.addAttributes b.parent extra } := by
  obtain ⟨root, attrs, front, inner, ho, htop, hfront, hroot, hinner⟩ := h.draft
  have hother : ∀ {id : Nat} {c : Cell}, b.draft.cells[id]? = some c → c.content.tag? = none →
      (b.draft.addAttributes root extra).cells[id]? = some c := by
    intro id c hid hc
    rw [Draft.addAttributes, Draft.getElem?_modify, if_neg, hid]
    rintro rfl
    rw [hroot] at hid
    cases hid
    cases hc
  have hflat : ∀ {q id}, Flat b.draft q id → Flat (b.draft.addAttributes root extra) q id := by
    rintro q id ⟨content, hf, hid⟩
    refine ⟨content, hf, hother hid ?_⟩
    cases content with
    | element => cases hf
    | _ => rfl
  obtain ⟨attrs', hself⟩ : ∃ attrs', (b.draft.addAttributes root extra).cells[root]? =
      some ⟨.element "html" attrs' none, some 0, inner⟩ := by
    rw [Draft.addAttributes, Draft.getElem?_modify, if_pos rfl, hroot]
    exact ⟨_, rfl⟩
  rw [parent_of_opened ho]
  exact ⟨⟨h.skipBreak, h.fostering, h.templateModes⟩, h.textMode, h.mode, root, attrs', front,
    inner, ho, hother htop rfl, fun id hid => hflat (hfront id hid), hself,
    fun id hid => hflat (hinner id hid)⟩

theorem AtRoot.early_addRootAttributes (h : AtRoot b) (hl : Lone b) (tag : Tag) :
    Early (b.addRootAttributes tag) := by
  rw [h.addRootAttributes_eq]
  exact .root (h.addAttributes tag.attrs)
    ⟨hl.marks, fun p h0 hp => (children_addAttributes _).trans (hl.children p h0 hp)⟩

theorem AtRoot.exists_seated_insertHead (h : AtRoot b) (hl : Lone b)
    (attrs : List (String × String)) : ∃ r h, ((b.insertHead attrs).into .inHead).Seated none r h :=
  have hlone : Lone (b.insert ⟨"head", attrs, false⟩) := hl.insert h.toCalm h.plain (by simp)
  (h.insertHead attrs).exists_seated ⟨hlone.marks, hlone.children⟩

theorem AtRoot.heads_readByMode (h : AtRoot b) (hl : Lone b) (t : Token) :
    Heads (b.readByMode t).builder := by
  have hsame : Heads b := .inl (.root h hl)
  have hcreate : Heads ((b.insertHead []).into .inHead) := .inr (h.exists_seated_insertHead hl [])
  rw [readByMode, h.mode]
  cases t with
  | blank s => exact hsame
  | comment s =>
    change Heads (b.addComment s)
    rw [h.toCalm.addComment_eq h.plain]
    exact .inl (.root (h.append rfl) (hl.append _))
  | opening tag =>
    simp only [readBeforeHead]
    split_ifs
    · exact .inl (h.early_addRootAttributes hl tag)
    · exact .inr (h.exists_seated_insertHead hl tag.attrs)
    · exact hcreate
  | closing name =>
    simp only [readBeforeHead]
    split_ifs
    · exact hcreate
    · exact hsame
  | _ => exact hcreate

end BeforeHead

section Runs

theorem Early.calm (h : Early b) : Calm b := by
  cases h with
  | top h => exact h.toCalm
  | root h => exact h.toCalm

theorem Early.plain (h : Early b) : Plain b := by
  cases h with
  | top h => exact h.plain
  | root h => exact h.plain

theorem Early.heads_readByMode (h : Early b) (t : Token) : Heads (b.readByMode t).builder := by
  cases h with
  | top h hl => exact .inl (h.early_readByMode hl t)
  | root h hl => exact h.heads_readByMode hl t

theorem Heads.settle (hb : Heads b) (fuel : Nat) (t : Token) : Heads (b.settle fuel t) := by
  induction fuel generalizing b t with
  | zero => exact hb
  | succ fuel ih =>
    rcases hb with hb | ⟨r, h, hs⟩
    · have hstep := hb.heads_readByMode t
      rw [Builder.settle, hb.plain.readsForeign, if_neg Bool.false_ne_true]
      generalize b.readByMode t = o at hstep
      cases o with
      | done b => exact hstep
      | again b t => exact ih hstep t
    · exact .inr ⟨r, h, hs.settle _ t⟩

theorem Heads.read (hb : Heads b) (t : Token) : Heads (b.read t) := by
  rcases hb with hb | ⟨r, h, hs⟩
  · cases t with
    | doctype d =>
      rw [hb.calm.read_doctype]
      cases hb with
      | top h hl => exact .inl (h.early_readDoctype hl d)
      | root h hl =>
        rw [readDoctype, h.mode]
        exact .inl (.root h hl)
    | fault => exact hb.calm.read_fault.symm ▸ .inl hb
    | _ =>
      rw [hb.calm.read_eq (by simp) (by simp)]
      exact Heads.settle (.inl hb) _ _
  · exact .inr ⟨r, h, hs.read t⟩

theorem Heads.foldl_read (hb : Heads b) (tokens : List Token) :
    Heads (tokens.foldl Builder.read b) := by
  induction tokens generalizing b with
  | nil => exact hb
  | cons t tokens ih => exact ih (hb.read t)

theorem Heads.toMarkup (hb : Heads b) : Heads { b with textMode := .markup } := by
  rcases hb with (⟨h, hl⟩ | ⟨h, hl⟩) | hs
  · exact .inl (.top { h with textMode := rfl } ⟨hl.marks, hl.children⟩)
  · exact .inl (.root { h with textMode := rfl } ⟨hl.marks, hl.children⟩)
  · exact .inr hs

theorem Heads.readAll (hb : Heads b) (fuel : Nat) (cs : List Char) :
    Heads (b.readAll fuel cs) := by
  induction fuel generalizing b cs with
  | zero => exact hb
  | succ fuel ih =>
    rw [Builder.readAll]
    split
    · exact hb
    · exact ih (hb.toMarkup.foldl_read _) _

theorem heads_start : Heads start := by
  refine .inl (.top stage_start.1 ⟨rfl, fun p h0 _ => ?_⟩)
  have hnone : start.draft.cells[p]? = none :=
    Array.getElem?_eq_none (Nat.one_le_iff_ne_zero.mpr h0)
  rw [children, hnone]
  rfl

/-- The end of the text calls for a head, where there is none yet. -/
theorem Heads.isSome_head? (hb : Heads b) : (b.read .eof).draft.document.head?.isSome := by
  have hended (level : Level) (h : Stage level b []) :
      (b.read .eof).draft.document.head?.isSome := by
    obtain ⟨o, -, -, hd, -⟩ := h.read_eof.exists_outline
    rw [hd, o.head?_document]
    rfl
  rcases hb with (⟨h, -⟩ | ⟨h, -⟩) | ⟨r, h, hs⟩
  · exact hended .top ⟨h, rfl⟩
  · exact hended .root ⟨h, rfl⟩
  · exact (hs.read .eof).headed.isSome_head?

end Runs

end Builder

/-- Whatever the markup, its document has a head. -/
theorem Document.isSome_head?_parse (source : String) : (parse source).head?.isSome :=
  (Builder.heads_start.readAll _ _).isSome_head?

theorem Page.requireHead_parse (source : String) :
    (parse source).requireHead = .ok (parse source).head := by
  obtain ⟨place, h⟩ := Option.isSome_iff_exists.mp (Document.isSome_head?_parse source)
  have hd : (parse source).document.head? = some place := h
  rw [requireHead, head, hd]
  rfl

end HeadAudit.Markup

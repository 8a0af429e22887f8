import HeadAudit.Markup.Parser
import HeadAudit.Proofs.Markup.Drafting

namespace HeadAudit.Markup.Builder

open List Draft

/-- No template is open, nothing is moved out of a table, and no line break is dropped. -/
structure Calm (b : Builder) : Prop where
  skipBreak : b.skipBreak = false
  fostering : b.fostering = false
  templateModes : b.templateModes = []

def html (id : Nat) (name : String) : Opened := ⟨id, .html, name, false⟩

def parent (b : Builder) : Nat := (b.current?.map (·.id)).getD 0

variable {b c : Builder} {t : Token} {tag : Tag} {name : String} {fuel id : Nat}

section Insertion

def Plain (b : Builder) : Prop :=
  ∀ o ∈ b.current?, o.space = .html ∧ o.isHtml "template" = false

theorem isHtml_html (id : Nat) (h : name ≠ "template") :
    (html id name).isHtml "template" = false := by
  simp [Opened.isHtml, Opened.isIn, html, h]

theorem plain_of_opened {os : List Opened} (ho : b.opened = html id name :: os)
    (h : name ≠ "template") : Plain b := by
  intro o hm
  rw [current?, ho] at hm
  cases hm
  exact ⟨rfl, isHtml_html id h⟩

theorem parent_of_opened {os : List Opened} (ho : b.opened = html id name :: os) :
    b.parent = id := by
  rw [parent, current?, ho]
  rfl

theorem Calm.spot_eq (hc : Calm b) (hp : Plain b) : b.spot = .under b.parent := by
  rw [spot, parent]
  cases h : b.current? with
  | none => rfl
  | some o =>
    dsimp only
    rw [spotFor, hc.fostering, Bool.false_and, if_neg Bool.false_ne_true, spotUnder,
      (hp o h).2, if_neg Bool.false_ne_true]
    rfl

theorem Calm.place_eq (hc : Calm b) (hp : Plain b) (ht : tag.name ≠ "template") :
    b.place .html tag =
      ({ b with draft := b.draft.append b.parent (.element tag.name tag.attrs none) },
        html b.draft.cells.size tag.name) := by
  have hname : (tag.name == "template") = false := beq_eq_false_iff_ne.mpr ht
  rw [place, hc.spot_eq hp, make, hname, Bool.and_false, if_neg Bool.false_ne_true]
  rfl

theorem Calm.insert_eq (hc : Calm b) (hp : Plain b) (ht : tag.name ≠ "template") :
    b.insert tag =
      { b with
        draft := b.draft.append b.parent (.element tag.name tag.attrs none)
        opened := html b.draft.cells.size tag.name :: b.opened } := by
  rw [insert, openIn, hc.place_eq hp ht]

theorem Calm.addText_eq (hc : Calm b) (hp : Plain b) (s : String) :
    b.addText s = { b with draft := b.draft.insertText (.under b.parent) s } := by
  rw [addText, hc.spot_eq hp]

theorem Calm.addComment_eq (hc : Calm b) (hp : Plain b) (s : String) :
    b.addComment s = { b with draft := b.draft.append b.parent (.comment s) } := by
  rw [addComment, hc.spot_eq hp]
  rfl

end Insertion

section Settling

theorem Plain.readsForeign (hp : Plain b) (t : Token) : b.readsForeign t = false := by
  have h : (b.current?.any fun o => o.space != .html && !takesHtml o t) = false := by
    cases hcur : b.current? with
    | none => rfl
    | some o =>
      rw [Option.any_some, (hp o hcur).1]
      rfl
  cases t <;> first | rfl | exact h

theorem Plain.isForeign (hp : Plain b) : b.isForeign = false := by
  rw [Builder.isForeign]
  cases hcur : b.current? with
  | none => rfl
  | some o =>
    rw [Option.any_some, (hp o hcur).1]
    rfl

theorem Plain.settle_done (hp : Plain b) (h : b.readByMode t = .done c) :
    b.settle (fuel + 1) t = c := by
  rw [settle, hp.readsForeign, if_neg Bool.false_ne_true, h]

theorem Plain.settle_again (hp : Plain b) {u : Token} (h : b.readByMode t = .again c u) :
    b.settle (fuel + 1) t = c.settle fuel u := by
  rw [settle, hp.readsForeign, if_neg Bool.false_ne_true, h]

end Settling

section Stages

/-- Nothing was read yet but what stands around the root element. -/
structure AtTop (b : Builder) : Prop extends Calm b where
  textMode : b.textMode = .markup
  mode : b.mode = .initial ∨ b.mode = .beforeHtml
  opened : b.opened = []
  draft : ∃ front, b.draft.cells[0]? = some ⟨.root, none, front⟩ ∧ ∀ id ∈ front, Flat b.draft 0 id

structure AtRoot (b : Builder) : Prop extends Calm b where
  textMode : b.textMode = .markup
  mode : b.mode = .beforeHead
  draft : ∃ root attrs front inner, b.opened = [html root "html"] ∧
    b.draft.cells[0]? = some ⟨.root, none, front ++ [root]⟩ ∧ (∀ id ∈ front, Flat b.draft 0 id) ∧
    b.draft.cells[root]? = some ⟨.element "html" attrs none, some 0, inner⟩ ∧
    ∀ id ∈ inner, Flat b.draft root id

abbrev Elements := List Kind

structure InHead (b : Builder) (textMode : TextMode) (elements : Elements) : Prop
    extends Calm b where
  textMode : b.textMode = textMode
  mode : b.mode = .inHead
  draft : ∃ s rootAttrs headAttrs kinds,
    b.opened = [html s.head "head", html s.root "html"] ∧
    Spine.In s b.draft rootAttrs headAttrs kinds [] ∧ kinds.reduceOption = elements

structure InText (b : Builder) (textMode : TextMode) (elements : Elements) : Prop
    extends Calm b where
  textMode : b.textMode = textMode
  mode : b.mode = .inText
  resume : b.resume = .inHead
  draft : ∃ s rootAttrs headAttrs kinds x name c,
    b.opened = [html x name, html s.head "head", html s.root "html"] ∧ name ≠ "template" ∧
    Spine.In s b.draft rootAttrs headAttrs kinds [] ∧ kinds.reduceOption = elements ∧
    x ∉ [0, s.root, s.head] ∧ b.draft.cells[x]? = some c ∧ c.content.isFlat = false

def Ended (b : Builder) (elements : Elements) : Prop :=
  ∃ s rootAttrs headAttrs kinds,
    Spine.In s b.draft rootAttrs headAttrs kinds [some ("body", [])] ∧ kinds.reduceOption = elements

variable {elements : Elements} {m : TextMode}

theorem Calm.read_eq (hc : Calm b) (hd : ∀ d, t ≠ .doctype d) (hf : t ≠ .fault) :
    b.read t = b.settle b.fuel t := by
  have hb : { b with skipBreak := false } = b := by
    cases b
    cases hc.skipBreak
    rfl
  rw [read, hb, hc.skipBreak, if_neg Bool.false_ne_true]
  · rfl
  · exact hd
  · exact hf

theorem Calm.read_fault (hc : Calm b) : b.read .fault = b := by
  cases b
  cases hc.skipBreak
  rfl

theorem Calm.read_doctype (hc : Calm b) (d : Doctype) : b.read (.doctype d) = b.readDoctype d := by
  have hb : { b with skipBreak := false } = b := by
    cases b
    cases hc.skipBreak
    rfl
  rw [read, hb]

theorem AtTop.plain (h : AtTop b) : Plain b := by
  intro o ho
  rw [current?, h.opened] at ho
  cases ho

theorem AtTop.append (h : AtTop b) (content : Content) (hf : content.isFlat = true) {mode : Mode}
    (hm : mode = .initial ∨ mode = .beforeHtml) :
    AtTop { b with draft := b.draft.append 0 content, mode } := by
  obtain ⟨front, htop, hfront⟩ := h.draft
  have hg := grows_append htop rfl content
  refine ⟨⟨h.skipBreak, h.fostering, h.templateModes⟩, h.textMode, hm, h.opened,
    front ++ [b.draft.cells.size], hg.self htop rfl, fun id hid => ?_⟩
  rcases mem_append.mp hid with hid | hid
  · exact hg.flat (hfront id hid)
  · rw [mem_singleton.mp hid]
    exact ⟨content, hf, getElem?_append_self (lt_of_getElem? htop)⟩

/-- Reading a token in one state comes down to reading it in another one, some rounds later. -/
def LeadsTo (b : Builder) (t : Token) (c : Builder) (rounds : Nat) : Prop :=
  ∀ fuel, b.settle (fuel + rounds) t = c.settle fuel t

theorem LeadsTo.refl (b : Builder) (t : Token) : LeadsTo b t b 0 := fun _ => rfl

theorem LeadsTo.trans {e : Builder} {m n : Nat} (h : LeadsTo b t c m) (h' : LeadsTo c t e n) :
    LeadsTo b t e (n + m) := by
  intro fuel
  rw [← Nat.add_assoc, h, h']

theorem Plain.leadsTo (hp : Plain b) (h : b.readByMode t = .again c t) : LeadsTo b t c 1 :=
  fun _ => hp.settle_again h

def Reads (b : Builder) (t : Token) (c : Builder) (rounds : Nat) : Prop :=
  ∀ fuel, b.settle (fuel + rounds) t = c

theorem Plain.reads (hp : Plain b) (h : b.readByMode t = .done c) : Reads b t c 1 :=
  fun _ => hp.settle_done h

theorem LeadsTo.reads {e : Builder} {m n : Nat} (h : LeadsTo b t c m) (h' : Reads c t e n) :
    Reads b t e (n + m) := by
  intro fuel
  rw [← Nat.add_assoc, h, h']

theorem Calm.read_of_reads {rounds : Nat} (hc : Calm b) (hd : ∀ d, t ≠ .doctype d)
    (hf : t ≠ .fault) (h : Reads b t c rounds) (hr : rounds ≤ 8) : b.read t = c := by
  obtain ⟨n, hn⟩ : ∃ n, b.fuel = n + rounds :=
    ⟨b.fuel - rounds, by rw [Builder.fuel]; omega⟩
  rw [hc.read_eq hd hf, hn, h]

theorem AtTop.read_blank (h : AtTop b) (s : String) : b.read (.blank s) = b := by
  refine h.toCalm.read_of_reads (by simp) (by simp) (h.plain.reads ?_) (by decide)
  rw [readByMode]
  rcases h.mode with hm | hm <;> rw [hm] <;> rfl

theorem AtTop.read_comment (h : AtTop b) (s : String) : AtTop (b.read (.comment s)) := by
  have hdone : b.readByMode (.comment s) = .done (b.addTopComment s) := by
    rw [readByMode]
    rcases h.mode with hm | hm <;> rw [hm] <;> rfl
  rw [h.toCalm.read_of_reads (by simp) (by simp) (h.plain.reads hdone) (by decide)]
  exact h.append _ rfl h.mode

theorem AtTop.read_doctype (h : AtTop b) (d : Doctype) : AtTop (b.read (.doctype d)) := by
  rw [h.toCalm.read_doctype, readDoctype]
  split
  · exact { h.append (.doctype d.name) rfl (.inr rfl) with }
  · exact h

def CallsHead : Token → Prop
  | .opening tag => tag.name ≠ "html" ∧ tag.name ≠ "head"
  | .eof => True
  | _ => False

def CallsRoot : Token → Prop
  | .opening tag => tag.name ≠ "html"
  | .eof => True
  | _ => False

theorem AtTop.insertRoot (h : AtTop b) (attrs : List (String × String)) :
    AtRoot ((b.insertRoot attrs).into .beforeHead) := by
  obtain ⟨front, htop, hfront⟩ := h.draft
  have hparent : b.parent = 0 := by
    rw [parent, current?, h.opened]
    rfl
  have hg := grows_append htop rfl (.element "html" attrs none)
  have hlt := lt_of_getElem? htop
  rw [Builder.insertRoot, h.toCalm.insert_eq h.plain (by simp), hparent, h.opened]
  refine ⟨⟨h.skipBreak, h.fostering, h.templateModes⟩, h.textMode, rfl, b.draft.cells.size, attrs,
    front, [], rfl, hg.self htop rfl, fun id hid => hg.flat (hfront id hid),
    getElem?_append_self hlt, fun id hid => absurd hid not_mem_nil⟩

theorem AtTop.leadsTo_of_mode (h : AtTop b) (hm : b.mode = .beforeHtml) (ht : CallsRoot t) :
    LeadsTo b t ((b.insertRoot []).into .beforeHead) 1 := by
  apply h.plain.leadsTo
  rw [readByMode, hm]
  cases t with
  | opening tag =>
    have hname : (tag.name == "html") = false := beq_eq_false_iff_ne.mpr ht
    simp only [readBeforeHtml, hname, Bool.false_eq_true, if_false]
  | eof => rfl
  | _ => cases ht

theorem AtTop.leadsTo_beforeHtml (h : AtTop b) (hb : ∀ s, t ≠ .blank s) (hc : ∀ s, t ≠ .comment s) :
    ∃ c rounds, rounds ≤ 1 ∧ AtTop c ∧ c.mode = .beforeHtml ∧ LeadsTo b t c rounds := by
  rcases h.mode with hm | hm
  · refine ⟨{ b with isOldPage := true }.into .beforeHtml, 1, le_rfl,
      ⟨⟨h.skipBreak, h.fostering, h.templateModes⟩, h.textMode, .inr rfl, h.opened, h.draft⟩,
      rfl, ?_⟩
    have hagain : b.readInitial t = .again ({ b with isOldPage := true }.into .beforeHtml) t := by
      rw [readInitial]
      · exact hb
      · exact hc
    apply h.plain.leadsTo
    rw [readByMode, hm]
    exact hagain
  · exact ⟨b, 0, by decide, h, hm, .refl b t⟩

theorem AtTop.leadsTo (h : AtTop b) (ht : CallsRoot t) :
    ∃ c rounds, rounds ≤ 2 ∧ AtRoot c ∧ LeadsTo b t c rounds := by
  have hb : ∀ s, t ≠ .blank s := by
    rintro s rfl
    exact ht
  have hc : ∀ s, t ≠ .comment s := by
    rintro s rfl
    exact ht
  obtain ⟨c, rounds, hr, hctop, hm, hlead⟩ := h.leadsTo_beforeHtml hb hc
  exact ⟨_, 1 + rounds, by omega, hctop.insertRoot [], hlead.trans (hctop.leadsTo_of_mode hm ht)⟩

theorem AtTop.read_html (h : AtTop b) (ht : tag.name = "html") :
    AtRoot (b.read (.opening tag)) := by
  obtain ⟨c, rounds, hr, hctop, hm, hlead⟩ :=
    h.leadsTo_beforeHtml (t := .opening tag) (by simp) (by simp)
  have hdone : c.readByMode (.opening tag) = .done ((c.insertRoot tag.attrs).into .beforeHead) := by
    have hname : (tag.name == "html") = true := beq_iff_eq.mpr ht
    rw [readByMode, hm]
    simp only [readBeforeHtml, hname, if_true]
  rw [h.toCalm.read_of_reads (by simp) (by simp) (hlead.reads (hctop.plain.reads hdone)) (by omega)]
  exact hctop.insertRoot tag.attrs

theorem AtRoot.plain (h : AtRoot b) : Plain b := by
  obtain ⟨root, attrs, front, inner, ho, -⟩ := h.draft
  exact plain_of_opened ho (by decide)

theorem AtRoot.insertHead (h : AtRoot b) (attrs : List (String × String)) :
    InHead ((b.insertHead attrs).into .inHead) .markup [] := by
  obtain ⟨root, rootAttrs, front, inner, ho, htop, hfront, hroot, hinner⟩ := h.draft
  have hparent := parent_of_opened ho
  have hg := grows_append hroot rfl (.element "head" attrs none)
  have hlt := lt_of_getElem? hroot
  have hne : 0 ≠ root := by
    rintro rfl
    rw [htop] at hroot
    cases hroot
  rw [Builder.insertHead, h.toCalm.insert_eq h.plain (by simp), hparent, ho]
  refine ⟨⟨h.skipBreak, h.fostering, h.templateModes⟩, h.textMode, rfl,
    ⟨front, root, inner, b.draft.cells.size, [], []⟩, rootAttrs, attrs, [], rfl, ?_, rfl⟩
  exact ⟨hg.other htop rfl hne, fun id hid => hg.flat (hfront id hid), hg.self hroot rfl,
    fun id hid => hg.flat (hinner id hid), getElem?_append_self hlt, .nil, .nil⟩

theorem AtRoot.read_blank (h : AtRoot b) (s : String) : b.read (.blank s) = b := by
  refine h.toCalm.read_of_reads (by simp) (by simp) (h.plain.reads ?_) (by decide)
  rw [readByMode, h.mode]
  rfl

theorem AtRoot.read_doctype (h : AtRoot b) (d : Doctype) : b.read (.doctype d) = b := by
  rw [h.toCalm.read_doctype, readDoctype, h.mode]
  rfl

theorem AtRoot.append (h : AtRoot b) {content : Content} (hf : content.isFlat = true) :
    AtRoot { b with draft := b.draft.append b.parent content } := by
  obtain ⟨root, attrs, front, inner, ho, htop, hfront, hroot, hinner⟩ := h.draft
  have hg := grows_append hroot rfl content
  have hne : 0 ≠ root := by
    rintro rfl
    rw [htop] at hroot
    cases hroot
  rw [parent_of_opened ho]
  refine ⟨⟨h.skipBreak, h.fostering, h.templateModes⟩, h.textMode, h.mode, root, attrs, front,
    inner ++ [b.draft.cells.size], ho, hg.other htop rfl hne, fun id hid => hg.flat (hfront id hid),
    hg.self hroot rfl, fun id hid => ?_⟩
  rcases mem_append.mp hid with hid | hid
  · exact hg.flat (hinner id hid)
  · rw [mem_singleton.mp hid]
    exact ⟨content, hf, getElem?_append_self (lt_of_getElem? hroot)⟩

theorem AtRoot.read_comment (h : AtRoot b) (s : String) : AtRoot (b.read (.comment s)) := by
  have hdone : b.readByMode (.comment s) = .done (b.addComment s) := by
    rw [readByMode, h.mode]
    rfl
  rw [h.toCalm.read_of_reads (by simp) (by simp) (h.plain.reads hdone) (by decide),
    h.toCalm.addComment_eq h.plain]
  exact h.append rfl

theorem AtRoot.leadsTo (h : AtRoot b) (ht : CallsHead t) :
    ∃ c, InHead c .markup [] ∧ LeadsTo b t c 1 := by
  refine ⟨_, h.insertHead [], ?_⟩
  apply h.plain.leadsTo
  rw [readByMode, h.mode]
  cases t with
  | opening tag =>
    have hhtml : (tag.name == "html") = false := beq_eq_false_iff_ne.mpr ht.1
    have hhead : (tag.name == "head") = false := beq_eq_false_iff_ne.mpr ht.2
    simp only [readBeforeHead, hhtml, hhead, Bool.false_eq_true, if_false]
  | eof => rfl
  | _ => cases ht

theorem AtRoot.read_head (h : AtRoot b) (ht : tag.name = "head") :
    ∃ c, Reads b (.opening tag) c 1 ∧ InHead c .markup [] := by
  have hhtml : (tag.name == "html") = false := by rw [ht]; decide
  have hhead : (tag.name == "head") = true := beq_iff_eq.mpr ht
  refine ⟨_, h.plain.reads ?_, h.insertHead tag.attrs⟩
  rw [readByMode, h.mode]
  simp only [readBeforeHead, hhtml, hhead, Bool.false_eq_true, if_false, if_true]

theorem InHead.plain (h : InHead b m elements) : Plain b := by
  obtain ⟨s, rootAttrs, headAttrs, kinds, ho, -⟩ := h.draft
  exact plain_of_opened ho (by decide)

theorem reduceOption_append_flat {α : Type} (kinds : List (Option α)) (new : List Nat) :
    (kinds ++ new.map fun _ => none).reduceOption = kinds.reduceOption := by
  rw [reduceOption_append]
  have hnil : (new.map fun _ => (none : Option α)).reduceOption = [] := by
    induction new with
    | nil => rfl
    | cons id new ih => exact ih
  rw [hnil, append_nil]

theorem InHead.grows (h : InHead b m elements) {draft : Draft} {new : List Nat}
    (hg : Grows b.draft draft b.parent new) (hnew : ∀ id ∈ new, Flat draft b.parent id) :
    InHead { b with draft } m elements := by
  obtain ⟨s, rootAttrs, headAttrs, kinds, ho, hs, hk⟩ := h.draft
  rw [parent_of_opened ho] at hg hnew
  have hflat : Forall₂ (Leaf draft s.head) new (new.map fun _ => none) := by
    rw [forall₂_map_right_iff, forall₂_same]
    exact fun id hid => .flat (hnew id hid)
  exact ⟨⟨h.skipBreak, h.fostering, h.templateModes⟩, h.textMode, h.mode,
    { s with items := s.items ++ new }, rootAttrs, headAttrs, _, ho, hs.grows_head hg hflat,
    (reduceOption_append_flat kinds new).trans hk⟩

theorem InHead.exists_parent (h : InHead b m elements) :
    ∃ c, b.draft.cells[b.parent]? = some c ∧ c.content.isFlat = false := by
  obtain ⟨s, rootAttrs, headAttrs, kinds, ho, hs, -⟩ := h.draft
  rw [parent_of_opened ho]
  exact ⟨_, hs.head, rfl⟩

theorem InHead.read_blank (h : InHead b m elements) (s : String) :
    InHead (b.read (.blank s)) m elements := by
  obtain ⟨c, hc, hf⟩ := h.exists_parent
  obtain ⟨new, hg, hnew, -⟩ := exists_grows_insertText hc hf s
  have hdone : b.readByMode (.blank s) = .done (b.addText s) := by
    rw [readByMode, h.mode]
    rfl
  rw [h.toCalm.read_of_reads (by simp) (by simp) (h.plain.reads hdone) (by decide),
    h.toCalm.addText_eq h.plain]
  exact h.grows hg hnew

theorem InHead.read_comment (h : InHead b m elements) (s : String) :
    InHead (b.read (.comment s)) m elements := by
  obtain ⟨c, hc, hf⟩ := h.exists_parent
  have hdone : b.readByMode (.comment s) = .done (b.addComment s) := by
    rw [readByMode, h.mode]
    rfl
  rw [h.toCalm.read_of_reads (by simp) (by simp) (h.plain.reads hdone) (by decide),
    h.toCalm.addComment_eq h.plain]
  refine h.grows (grows_append hc hf _) fun id hid => ?_
  rw [mem_singleton.mp hid]
  exact ⟨.comment s, rfl, getElem?_append_self (lt_of_getElem? hc)⟩

theorem InHead.read_doctype (h : InHead b m elements) (d : Doctype) : b.read (.doctype d) = b := by
  rw [h.toCalm.read_doctype, readDoctype, h.mode]
  rfl

theorem InHead.readByMode_metadata (h : InHead b m elements)
    (ht : tag.name ∈ "noscript" :: Vocabulary.metadata) :
    b.readByMode (.opening tag) = .done (b.insertMetadata tag) := by
  have hhtml : (tag.name == "html") = false := by
    rw [beq_eq_false_iff_ne]
    rintro he
    rw [he] at ht
    exact absurd ht (by decide)
  rw [readByMode, h.mode]
  simp only [readInHead, hhtml, Bool.false_eq_true, if_false, ht, if_true]

theorem InHead.append (h : InHead b m elements) (name : String) (attrs : List (String × String)) :
    InHead { b with draft := b.draft.append b.parent (.element name attrs none) } m
      (elements ++ [(name, attrs)]) := by
  obtain ⟨s, rootAttrs, headAttrs, kinds, ho, hs, hk⟩ := h.draft
  rw [parent_of_opened ho]
  have hg := grows_append hs.head rfl (.element name attrs none)
  have hleaf : Leaf (b.draft.append s.head (.element name attrs none)) s.head b.draft.cells.size
      (some (name, attrs)) :=
    .element name attrs [] (getElem?_append_self (lt_of_getElem? hs.head))
      fun kid hm => absurd hm not_mem_nil
  refine ⟨⟨h.skipBreak, h.fostering, h.templateModes⟩, h.textMode, h.mode,
    { s with items := s.items ++ [b.draft.cells.size] }, rootAttrs, headAttrs, _, ho,
    hs.grows_head hg (.cons hleaf .nil), ?_⟩
  rw [reduceOption_append, hk]
  rfl

theorem insertMetadata_of_empty (ht : tag.name ∈ Vocabulary.emptyMetadata) :
    b.insertMetadata tag = b.insertEmpty tag := by
  simp only [Vocabulary.emptyMetadata, mem_cons, not_mem_nil, or_false] at ht
  rcases ht with h | h | h | h | h <;> simp [insertMetadata, h]

theorem InHead.read_empty (h : InHead b m elements) (ht : tag.name ∈ Vocabulary.emptyMetadata) :
    ∃ c, Reads b (.opening tag) c 1 ∧ InHead c m (elements ++ [(tag.name, tag.attrs)]) := by
  have hsub : ∀ name ∈ Vocabulary.emptyMetadata, name ∈ "noscript" :: Vocabulary.metadata ∧
      name ≠ "template" := by decide
  have hdone := h.readByMode_metadata (hsub _ ht).1
  refine ⟨_, h.plain.reads hdone, ?_⟩
  rw [insertMetadata_of_empty ht, insertEmpty, h.toCalm.place_eq h.plain (hsub _ ht).2]
  exact h.append tag.name tag.attrs

def textNames : List String := ["title", "noframes", "noscript", "style", "script"]

def textModeOf (name : String) : TextMode :=
  if name = "title" then .escapable name else if name = "script" then .script else .raw name

theorem insertMetadata_of_text (ht : tag.name ∈ textNames) :
    b.insertMetadata tag = b.insertText (textModeOf tag.name) tag := by
  simp only [textNames, mem_cons, not_mem_nil, or_false] at ht
  rcases ht with h | h | h | h | h <;> simp [insertMetadata, textModeOf, h]

theorem InHead.read_text (h : InHead b m elements) (ht : tag.name ∈ textNames) :
    ∃ c, Reads b (.opening tag) c 1 ∧
      InText c (textModeOf tag.name) (elements ++ [(tag.name, tag.attrs)]) := by
  have hsub : ∀ name ∈ textNames, name ∈ "noscript" :: Vocabulary.metadata ∧
      name ≠ "template" := by decide
  have hdone := h.readByMode_metadata (hsub _ ht).1
  rw [insertMetadata_of_text ht, insertText, h.toCalm.insert_eq h.plain (hsub _ ht).2] at hdone
  obtain ⟨c, hc, -⟩ := h.exists_parent
  have hlt := lt_of_getElem? hc
  have hcell : (b.draft.append b.parent (.element tag.name tag.attrs none)).cells[
      b.draft.cells.size]? = some ⟨.element tag.name tag.attrs none, some b.parent, []⟩ :=
    getElem?_append_self hlt
  obtain ⟨s, rootAttrs, headAttrs, kinds, ho, hs, hk⟩ := (h.append tag.name tag.attrs).draft
  refine ⟨_, h.plain.reads hdone, ⟨h.skipBreak, h.fostering, h.templateModes⟩, rfl, rfl, h.mode,
    s, rootAttrs, headAttrs, kinds, b.draft.cells.size, tag.name, ⟨.element tag.name tag.attrs none,
      some b.parent, []⟩, congrArg (_ :: ·) ho, (hsub _ ht).2, hs, hk, ?_, ?_, rfl⟩
  · have hparent : b.parent = s.head := parent_of_opened (b := b) ho
    have htop := hs.top
    have hroot := hs.root
    simp only [mem_cons, not_mem_nil, or_false, not_or]
    refine ⟨?_, ?_, fun he => ?_⟩
    · intro he
      rw [← he, hcell] at htop
      cases htop
    · intro he
      rw [← he, hcell] at hroot
      simp only [Option.some.injEq, Cell.mk.injEq, Content.element.injEq] at hroot
      rw [hroot.1.1] at ht
      exact absurd ht (by decide)
    · rw [← hparent] at he
      exact absurd he (Nat.ne_of_gt hlt)
  · exact hcell

theorem InHead.read_eof (h : InHead b m elements) :
    ∃ c, Reads b .eof c 3 ∧ Ended c elements := by
  obtain ⟨s, rootAttrs, headAttrs, kinds, ho, hs, hk⟩ := h.draft
  let left := b.pop.into .afterHead
  let closed := (left.insertImplied "body").into .inBody
  have hleave : b.readByMode .eof = .again left .eof := by
    rw [readByMode, h.mode]
    rfl
  have hopened : left.opened = [html s.root "html"] := congrArg (·.drop 1) ho
  have hplain : Plain left := plain_of_opened hopened (by decide)
  have hcalm : Calm left := ⟨h.skipBreak, h.fostering, h.templateModes⟩
  have hbody : left.insertImplied "body" = _ := hcalm.insert_eq hplain (by decide)
  rw [parent_of_opened hopened] at hbody
  have hlead : LeadsTo b .eof closed 2 := (h.plain.leadsTo hleave).trans (hplain.leadsTo rfl)
  have hinside : closed.opened = html left.draft.cells.size "body" :: left.opened :=
    congrArg (·.opened) hbody
  have hlast : Plain closed := plain_of_opened hinside (by decide)
  have hdone : closed.readByMode .eof = .done closed := by
    have htemplates : closed.templateModes = [] := by
      rw [← hcalm.templateModes]
      exact congrArg (·.templateModes) hbody
    rw [readByMode]
    change closed.readInBody .eof = _
    rw [readInBody, htemplates]
    rfl
  refine ⟨closed, hlead.reads (hlast.reads hdone), ?_⟩
  have hdraft : closed.draft = b.draft.append s.root (.element "body" [] none) :=
    congrArg (·.draft) hbody
  have hg := grows_append hs.root rfl (.element "body" [] none)
  have hne : b.draft.cells.size ≠ s.head := Nat.ne_of_gt (lt_of_getElem? hs.head)
  have hleaf : Leaf (b.draft.append s.root (.element "body" [] none)) s.root b.draft.cells.size
      (some ("body", [])) :=
    .element "body" [] [] (getElem?_append_self (lt_of_getElem? hs.root))
      fun kid hm => absurd hm not_mem_nil
  refine ⟨{ s with late := s.late ++ [b.draft.cells.size] }, rootAttrs, headAttrs, kinds, ?_, hk⟩
  rw [hdraft]
  exact hs.grows_root hg (.cons ⟨hne, hleaf⟩ .nil)

theorem InText.plain (h : InText b m elements) : Plain b := by
  obtain ⟨s, rootAttrs, headAttrs, kinds, x, name, c, ho, hn, -⟩ := h.draft
  exact plain_of_opened ho hn

theorem InText.addText (h : InText b m elements) (text : String) :
    InText (b.addText text) m elements := by
  obtain ⟨s, rootAttrs, headAttrs, kinds, x, name, c, ho, hn, hs, hk, hx, hc, hf⟩ := h.draft
  obtain ⟨new, hg, hnew, -⟩ := exists_grows_insertText hc hf text
  rw [h.toCalm.addText_eq h.plain, parent_of_opened ho]
  exact ⟨⟨h.skipBreak, h.fostering, h.templateModes⟩, h.textMode, h.mode, h.resume, s, rootAttrs,
    headAttrs, kinds, x, name, _, ho, hn, hs.grows_flat hg hx hnew, hk, hx, hg.self hc hf, hf⟩

def IsText : Token → Prop
  | .blank _ | .text _ | .null | .fault => True
  | _ => False

theorem InText.read_text (h : InText b m elements) (ht : IsText t) :
    InText (b.read t) m elements := by
  have hadd (s : String) (hm : b.readInText t = .done (b.addText s)) (hd : ∀ d, t ≠ .doctype d)
      (hf : t ≠ .fault) : InText (b.read t) m elements := by
    have hdone : b.readByMode t = .done (b.addText s) := by
      rw [readByMode, h.mode]
      exact hm
    rw [h.toCalm.read_of_reads hd hf (h.plain.reads hdone) (by decide)]
    exact h.addText s
  cases t with
  | blank s => exact hadd s rfl (by simp) (by simp)
  | text s => exact hadd s rfl (by simp) (by simp)
  | null =>
    have hdone : b.readByMode .null = .done b := by
      rw [readByMode, h.mode]
      rfl
    rw [h.toCalm.read_of_reads (by simp) (by simp) (h.plain.reads hdone) (by decide)]
    exact h
  | fault =>
    rw [h.toCalm.read_fault]
    exact h
  | _ => cases ht

theorem InText.leave (h : InText b m elements) : InHead (b.pop.into b.resume) m elements := by
  obtain ⟨s, rootAttrs, headAttrs, kinds, x, name, c, ho, -, hs, hk, -⟩ := h.draft
  refine ⟨⟨h.skipBreak, h.fostering, h.templateModes⟩, h.textMode, h.resume, s, rootAttrs,
    headAttrs, kinds, ?_, hs, hk⟩
  rw [into, pop, ho]
  rfl

theorem InText.read_closing (h : InText b m elements) (name : String) :
    InHead (b.read (.closing name)) m elements := by
  have hdone : b.readByMode (.closing name) = .done (b.pop.into b.resume) := by
    rw [readByMode, h.mode]
    rfl
  rw [h.toCalm.read_of_reads (by simp) (by simp) (h.plain.reads hdone) (by decide)]
  exact h.leave

theorem InText.leadsTo_eof (h : InText b m elements) :
    ∃ c, InHead c m elements ∧ LeadsTo b .eof c 1 := by
  refine ⟨_, h.leave, h.plain.leadsTo ?_⟩
  rw [readByMode, h.mode]
  rfl

theorem InText.read_eof (h : InText b m elements) : Ended (b.read .eof) elements := by
  obtain ⟨c, hc, hlead⟩ := h.leadsTo_eof
  obtain ⟨e, he, hended⟩ := hc.read_eof
  rw [h.toCalm.read_of_reads (by simp) (by simp) (hlead.reads he) (by decide)]
  exact hended

inductive Level where
  | top
  | root
  | head

def Stage : Level → Builder → Elements → Prop
  | .top, b, elements => AtTop b ∧ elements = []
  | .root, b, elements => AtRoot b ∧ elements = []
  | .head, b, elements => InHead b .markup elements

variable {level : Level}

theorem Stage.calm (h : Stage level b elements) : Calm b := by
  cases level with
  | top => exact h.1.toCalm
  | root => exact h.1.toCalm
  | head => exact InHead.toCalm h

theorem Stage.plain (h : Stage level b elements) : Plain b := by
  cases level with
  | top => exact h.1.plain
  | root => exact h.1.plain
  | head => exact InHead.plain h

theorem Stage.textMode (h : Stage level b elements) : b.textMode = .markup := by
  cases level with
  | top => exact h.1.textMode
  | root => exact h.1.textMode
  | head => exact InHead.textMode h

theorem Stage.read_blank (h : Stage level b elements) (s : String) :
    Stage level (b.read (.blank s)) elements := by
  cases level with
  | top => exact (h.1.read_blank s).symm ▸ h
  | root => exact (h.1.read_blank s).symm ▸ h
  | head => exact InHead.read_blank h s

theorem Stage.read_comment (h : Stage level b elements) (s : String) :
    Stage level (b.read (.comment s)) elements := by
  cases level with
  | top => exact ⟨h.1.read_comment s, h.2⟩
  | root => exact ⟨h.1.read_comment s, h.2⟩
  | head => exact InHead.read_comment h s

theorem Stage.read_doctype (h : Stage level b elements) (d : Doctype) :
    Stage level (b.read (.doctype d)) elements := by
  cases level with
  | top => exact ⟨h.1.read_doctype d, h.2⟩
  | root => exact (h.1.read_doctype d).symm ▸ h
  | head => exact (InHead.read_doctype h d).symm ▸ h

theorem Stage.leadsTo (h : Stage level b elements) (ht : CallsHead t) :
    ∃ c rounds, rounds ≤ 3 ∧ InHead c .markup elements ∧ LeadsTo b t c rounds := by
  have hroot : CallsRoot t := by
    cases t with
    | opening tag => exact ht.1
    | eof => trivial
    | _ => cases ht
  cases level with
  | top =>
    obtain ⟨h, rfl⟩ := h
    obtain ⟨r, m, hm, hr, hlead⟩ := h.leadsTo hroot
    obtain ⟨c, hc, hlead'⟩ := hr.leadsTo ht
    exact ⟨c, 1 + m, by omega, hc, hlead.trans hlead'⟩
  | root =>
    obtain ⟨h, rfl⟩ := h
    obtain ⟨c, hc, hlead⟩ := h.leadsTo ht
    exact ⟨c, 1, by decide, hc, hlead⟩
  | head => exact ⟨b, 0, by decide, h, .refl b t⟩

theorem Stage.read_empty (h : Stage level b elements) (ht : tag.name ∈ Vocabulary.emptyMetadata) :
    Stage .head (b.read (.opening tag)) (elements ++ [(tag.name, tag.attrs)]) := by
  have hname : ∀ name ∈ Vocabulary.emptyMetadata, name ≠ "html" ∧ name ≠ "head" := by decide
  obtain ⟨c, rounds, hr, hc, hlead⟩ := h.leadsTo (t := .opening tag) (hname _ ht)
  obtain ⟨e, he, hhead⟩ := hc.read_empty ht
  rw [h.calm.read_of_reads (by simp) (by simp) (hlead.reads he) (by omega)]
  exact hhead

theorem Stage.read_text (h : Stage level b elements) (ht : tag.name ∈ textNames) :
    InText (b.read (.opening tag)) (textModeOf tag.name)
      (elements ++ [(tag.name, tag.attrs)]) := by
  have hname : ∀ name ∈ textNames, name ≠ "html" ∧ name ≠ "head" := by decide
  obtain ⟨c, rounds, hr, hc, hlead⟩ := h.leadsTo (t := .opening tag) (hname _ ht)
  obtain ⟨e, he, htext⟩ := hc.read_text ht
  rw [h.calm.read_of_reads (by simp) (by simp) (hlead.reads he) (by omega)]
  exact htext

theorem Stage.read_eof (h : Stage level b elements) : Ended (b.read .eof) elements := by
  obtain ⟨c, rounds, hr, hc, hlead⟩ := h.leadsTo (t := .eof) trivial
  obtain ⟨e, he, hended⟩ := hc.read_eof
  rw [h.calm.read_of_reads (by simp) (by simp) (hlead.reads he) (by omega)]
  exact hended

theorem stage_start : Stage .top start [] :=
  ⟨⟨⟨rfl, rfl, rfl⟩, rfl, .inl rfl, rfl, [], rfl, fun _ hid => absurd hid not_mem_nil⟩, rfl⟩

theorem Stage.read_html (h : Stage .top b elements) (ht : tag.name = "html") :
    Stage .root (b.read (.opening tag)) elements :=
  ⟨h.1.read_html ht, h.2⟩

theorem Stage.read_head (h : Stage level b elements) (hl : level ≠ .head) (ht : tag.name = "head") :
    Stage .head (b.read (.opening tag)) elements := by
  have hname : CallsRoot (.opening tag) := by
    rw [CallsRoot, ht]
    decide
  cases level with
  | top =>
    obtain ⟨h, rfl⟩ := h
    obtain ⟨r, m, hm, hr, hlead⟩ := h.leadsTo hname
    obtain ⟨c, hc, hhead⟩ := hr.read_head ht
    rw [h.toCalm.read_of_reads (by simp) (by simp) (hlead.reads hc) (by omega)]
    exact hhead
  | root =>
    obtain ⟨h, rfl⟩ := h
    obtain ⟨c, hc, hhead⟩ := h.read_head ht
    rw [h.toCalm.read_of_reads (by simp) (by simp) hc (by decide)]
    exact hhead
  | head => contradiction

end Stages

end HeadAudit.Markup.Builder

import HeadAudit.Proofs.Markup.Pieces
import HeadAudit.Proofs.Markup.Locations

namespace HeadAudit.Markup

open List StartTag

structure Spaced (α : Type) where
  gap : List Char
  piece : α
  isBlank : ∀ c ∈ gap, Ascii.isBlank c = true

def Spaced.chars {α : Type} (text : α → List Char) (s : Spaced α) : List Char :=
  s.gap ++ text s.piece

/-- The text of a page up to the end of its head. The tags around the head may be left out. -/
structure HeadText where
  front : List (Spaced Filler)
  root : Option (Spaced TagText)
  inner : List (Spaced Filler)
  head : Option (Spaced TagText)
  items : List (Spaced Item)
  last : List Char
  root_name : ∀ s ∈ root, s.piece.tag.name = "html"
  head_name : ∀ s ∈ head, s.piece.tag.name = "head"
  isBlank : ∀ c ∈ last, Ascii.isBlank c = true

namespace HeadText

def chars (p : HeadText) : List Char :=
  p.front.flatMap (Spaced.chars Filler.chars) ++
    (p.root.toList.flatMap (Spaced.chars TagText.chars) ++
      (p.inner.flatMap (Spaced.chars Filler.chars) ++
        (p.head.toList.flatMap (Spaced.chars TagText.chars) ++
          (p.items.flatMap (Spaced.chars Item.chars) ++ p.last))))

def source (p : HeadText) : String := String.ofList p.chars

def rootTag? (p : HeadText) : Option TagText := p.root.map Spaced.piece

def headTag? (p : HeadText) : Option TagText := p.head.map Spaced.piece

def tags (p : HeadText) : List TagText := p.items.flatMap (·.piece.tag?.toList)

end HeadText

section Starts

variable {α : Type} {s cs : List Char}

def Clean (cs : List Char) : Prop := ∀ c ∈ cs.head?, Ascii.isBlank c = true ∨ c = '<'

theorem Clean.append (hs : Clean s) (hcs : Clean cs) : Clean (s ++ cs) := by
  cases s with
  | nil => exact hcs
  | cons c s => exact hs

theorem clean_of_blank (h : ∀ c ∈ s, Ascii.isBlank c = true) : Clean s :=
  fun c hc => .inl (h c (mem_of_mem_head? hc))

theorem clean_of_bracket (h : ∃ s', s = '<' :: s') : Clean s := by
  obtain ⟨s', rfl⟩ := h
  rintro c ⟨⟩
  exact .inr rfl

theorem clean_flatMap {text : α → List Char} (h : ∀ x, ∃ s, text x = '<' :: s)
    (xs : List (Spaced α)) : Clean (xs.flatMap (Spaced.chars text)) := by
  induction xs with
  | nil => exact fun c hc => absurd hc (by simp)
  | cons x xs ih =>
    exact ((clean_of_blank x.isBlank).append (clean_of_bracket (h x.piece))).append ih

theorem Clean.not_mark (h : Clean cs) : '\ufeff' ∉ cs.head? := by
  intro hm
  rcases h _ hm with h | h
  · exact absurd h (by decide)
  · exact absurd h (by decide)

theorem TagText.exists_chars (t : TagText) : ∃ s, t.chars = '<' :: s := ⟨_, rfl⟩

theorem HeadText.clean (p : HeadText) : Clean p.chars :=
  (clean_flatMap Filler.exists_chars _).append <| (clean_flatMap TagText.exists_chars _).append <|
    (clean_flatMap Filler.exists_chars _).append <| (clean_flatMap TagText.exists_chars _).append <|
      (clean_flatMap Item.exists_chars _).append (clean_of_blank p.isBlank)

theorem normalize_of_not_mem (h : '\r' ∉ cs) : Lexer.normalize cs = cs := by
  induction cs with
  | nil => rfl
  | cons c cs ih =>
    obtain ⟨hc, hcs⟩ := not_or.mp (mem_cons.not.mp h)
    rw [Lexer.normalize, ih hcs]
    · rintro rest rfl
      exact fun _ => hc rfl
    · exact fun he => hc he.symm

end Starts

namespace Builder

variable {b c : Builder} {level : Level} {elements : Elements} {rest : List Char}

theorem Stage.runs_fillers (h : Stage level b elements) (fillers : List (Spaced Filler))
    (rest : List Char) :
    ∃ c, Stage level c elements ∧
      Runs b (fillers.flatMap (Spaced.chars Filler.chars) ++ rest) c rest := by
  induction fillers generalizing b with
  | nil => exact ⟨b, h, .refl b rest⟩
  | cons f fillers ih =>
    rw [flatMap_cons, Spaced.chars, append_assoc, append_assoc]
    obtain ⟨c, hc, hgap⟩ := h.runs_gap f.isBlank (atBracket_append f.piece.exists_chars _)
    obtain ⟨d, hd, hfiller⟩ := hc.runs_filler f.piece _
    obtain ⟨e, he, hrest⟩ := ih hd
    exact ⟨e, he, (hgap.trans hfiller).trans hrest⟩

theorem Stage.runs_tag (h : Stage level b elements) (t : Spaced TagText) (rest : List Char) :
    ∃ c, Stage level c elements ∧
      Runs b (Spaced.chars TagText.chars t ++ rest) (c.read (.opening t.piece.tag)) rest := by
  rw [Spaced.chars, append_assoc]
  obtain ⟨c, hc, hgap⟩ := h.runs_gap t.isBlank (atBracket_append t.piece.exists_chars rest)
  exact ⟨c, hc, hgap.trans (hc.runs_opening t.piece rest)⟩

theorem Stage.runs_items (h : Stage level b elements) (items : List (Spaced Item))
    (hr : Clean rest) :
    ∃ level' c, Stage level' c (elements ++ (items.flatMap (·.piece.tag?.toList)).map elementOf) ∧
      Runs b (items.flatMap (Spaced.chars Item.chars) ++ rest) c rest := by
  induction items generalizing b level elements with
  | nil => exact ⟨level, b, (append_nil elements).symm ▸ h, .refl b rest⟩
  | cons i items ih =>
    have hclean := (clean_flatMap Item.exists_chars items).append hr
    have hchars : (i :: items).flatMap (Spaced.chars Item.chars) ++ rest =
        i.gap ++ (i.piece.chars ++ (items.flatMap (Spaced.chars Item.chars) ++ rest)) := by
      rw [flatMap_cons, Spaced.chars, append_assoc, append_assoc]
    rw [hchars]
    obtain ⟨c, hc, hgap⟩ := h.runs_gap i.isBlank (atBracket_append i.piece.exists_chars _)
    obtain ⟨level', d, hd, hitem⟩ := hc.runs_item i.piece hclean.not_mark
    obtain ⟨level'', e, he, hrest⟩ := ih hd
    refine ⟨level'', e, ?_, (hgap.trans hitem).trans hrest⟩
    rwa [flatMap_cons, map_append, ← append_assoc]

theorem runs_root (h : Stage .top b []) {root : Option (Spaced TagText)}
    (hr : ∀ s ∈ root, s.piece.tag.name = "html") (rest : List Char) :
    ∃ level c, level ≠ .head ∧ Stage level c [] ∧
      Runs b (root.toList.flatMap (Spaced.chars TagText.chars) ++ rest) c rest := by
  cases root with
  | none => exact ⟨.top, b, by simp, h, .refl b rest⟩
  | some s =>
    obtain ⟨c, hc, hruns⟩ := h.runs_tag s rest
    refine ⟨.root, _, by simp, hc.read_html (hr s rfl), ?_⟩
    rwa [Option.toList_some, flatMap_singleton]

theorem runs_head (h : Stage level b []) (hl : level ≠ .head) {head : Option (Spaced TagText)}
    (hh : ∀ s ∈ head, s.piece.tag.name = "head") (rest : List Char) :
    ∃ level' c, Stage level' c [] ∧
      Runs b (head.toList.flatMap (Spaced.chars TagText.chars) ++ rest) c rest := by
  cases head with
  | none => exact ⟨level, b, h, .refl b rest⟩
  | some s =>
    obtain ⟨c, hc, hruns⟩ := h.runs_tag s rest
    refine ⟨.head, _, hc.read_head hl (hh s rfl), ?_⟩
    rwa [Option.toList_some, flatMap_singleton]

theorem runs_headText (p : HeadText) :
    ∃ level b, Stage level b (p.tags.map elementOf) ∧ Runs start p.chars b [] := by
  rw [HeadText.chars]
  obtain ⟨b₁, h₁, r₁⟩ := stage_start.runs_fillers p.front _
  obtain ⟨level₂, b₂, hl, h₂, r₂⟩ := runs_root h₁ p.root_name _
  obtain ⟨b₃, h₃, r₃⟩ := h₂.runs_fillers p.inner _
  obtain ⟨level₄, b₄, h₄, r₄⟩ := runs_head h₃ hl p.head_name _
  obtain ⟨level₅, b₅, h₅, r₅⟩ := h₄.runs_items p.items (clean_of_blank p.isBlank)
  have hend : AtBracket [] := fun c hc => absurd hc (by simp)
  obtain ⟨b₆, h₆, r₆⟩ := h₅.runs_gap p.isBlank hend
  rw [append_nil] at r₆
  exact ⟨level₅, b₆, h₆, r₁.trans (r₂.trans (r₃.trans (r₄.trans (r₅.trans r₆))))⟩

theorem document_parse {cs : List Char} (hc : Clean cs) (hr : '\r' ∉ cs) :
    Document.parse (String.ofList cs) =
      ((start.readAll cs.length cs).read .eof).draft.document := by
  rw [Document.parse, String.toList_ofList, Lexer.withoutMark_eq_self hc.not_mark,
    normalize_of_not_mem hr]

theorem exists_ended_headText (p : HeadText) (hr : '\r' ∉ p.chars) :
    ∃ b, Ended b (p.tags.map elementOf) ∧ Document.parse p.source = b.draft.document := by
  obtain ⟨level, b, hb, hruns⟩ := runs_headText p
  refine ⟨_, hb.read_eof, ?_⟩
  rw [HeadText.source, document_parse p.clean hr, hruns.readAll_eq]

/-- A single start tag makes a page. -/
theorem exists_ended_tag (t : TagText)
    (ht : t.tag.name ∈ Vocabulary.emptyMetadata ∨ t.tag.name ∈ textNames) (hr : '\r' ∉ t.chars) :
    ∃ b, Ended b [elementOf t] ∧ Document.parse (String.ofList t.chars) = b.draft.document := by
  have hruns := stage_start.runs_opening t []
  rw [append_nil] at hruns
  rw [document_parse (clean_of_bracket t.exists_chars) hr, hruns.readAll_eq]
  rcases ht with ht | ht
  · exact ⟨_, (stage_start.read_empty ht).read_eof, rfl⟩
  · exact ⟨_, (stage_start.read_text ht).read_eof, rfl⟩

theorem Ended.four_le_size (h : Ended b elements) : 4 ≤ b.draft.cells.size := by
  obtain ⟨s, rootAttrs, headAttrs, kinds, hs, -⟩ := h
  -- the body stands beside the head, so that there are four nodes
  obtain ⟨x, late, ⟨hhead, hx⟩, -, -⟩ := forall₂_cons_right_iff.mp hs.late
  cases hx with
  | element tag attrs ids hx _ =>
    have htop : x ≠ 0 := by
      rintro rfl
      rw [hs.top] at hx
      cases hx
    have hroot : x ≠ s.root := by
      rintro rfl
      rw [hs.root] at hx
      simp at hx
    have hlt := Draft.lt_of_getElem? hx
    have hlt' := Draft.lt_of_getElem? hs.root
    have hlt'' := Draft.lt_of_getElem? hs.head
    have hne := hs.root_ne_top
    have hne' := hs.head_ne_top
    have hne'' := hs.root_ne_head
    omega

theorem Ended.exists_outline (h : Ended b elements) :
    ∃ (o : Outline) (kinds latter : List (Option Kind)),
      b.draft.document = o.document ∧ Forall₂ Node.IsLeaf o.items kinds ∧
      kinds.reduceOption = elements ∧ Forall₂ Node.IsLeaf o.latter latter := by
  -- the tree is read off with a bound on its depth
  have hsize := h.four_le_size
  obtain ⟨s, rootAttrs, headAttrs, kinds, hs, hk⟩ := h
  obtain ⟨o, hd, hitems, hlatter⟩ := hs.exists_outline hsize
  exact ⟨o, kinds, _, hd, hitems, hk, hlatter⟩

end Builder

section Scanned

theorem carries_spaced {α : Type} {text : α → List Char} {tags : α → List TagText}
    (h : ∀ x, Carries (text x) (tags x)) (xs : List (Spaced α)) :
    Carries (xs.flatMap (Spaced.chars text)) (xs.flatMap fun x => tags x.piece) :=
  carries_flatMap fun x _ => (carries_blank x.isBlank).append (h x.piece)

theorem carries_fillers (fillers : List (Spaced Filler)) :
    Carries (fillers.flatMap (Spaced.chars Filler.chars)) [] := by
  have h := carries_spaced (fun f => carries_nil (Filler.scans f)) fillers
  rwa [flatMap_eq_nil_iff.mpr fun f _ => rfl] at h

end Scanned

section Pairs

variable {α β γ : Type} {xs : List α} {ys : List β}

theorem forall₂_comp {R : α → β → Prop} {S : β → γ → Prop} {zs : List γ} (h : Forall₂ R xs ys)
    (h' : Forall₂ S ys zs) :
    Forall₂ (fun x z => ∃ y ∈ ys, R x y ∧ S y z) xs zs := by
  induction h generalizing zs with
  | nil =>
    cases h'
    exact .nil
  | @cons x y xs ys hr _ ih =>
    obtain ⟨z, zs, hs, hzs, rfl⟩ := forall₂_cons_left_iff.mp h'
    refine .cons ⟨y, mem_cons_self, hr, hs⟩ ((ih hzs).imp ?_)
    rintro x z ⟨y', hy, hrs⟩
    exact ⟨y', mem_cons_of_mem y hy, hrs⟩

theorem exists_mem_zip (h : xs.length = ys.length) {x : α} (hx : x ∈ xs) :
    ∃ y, (x, y) ∈ xs.zip ys := by
  rw [← map_fst_zip h.le, mem_map] at hx
  obtain ⟨⟨x, y⟩, hzip, rfl⟩ := hx
  exact ⟨y, hzip⟩

end Pairs

namespace HeadText

variable {p : HeadText}

variable {t : TagText} {tag : StartTag}

theorem name_of_mem_rootTag? (h : t ∈ p.rootTag?) : t.tag.name = "html" := by
  obtain ⟨s, hs, rfl⟩ := Option.map_eq_some_iff.mp h
  exact p.root_name s hs

theorem name_of_mem_headTag? (h : t ∈ p.headTag?) : t.tag.name = "head" := by
  obtain ⟨s, hs, rfl⟩ := Option.map_eq_some_iff.mp h
  exact p.head_name s hs

theorem name_of_mem_tags (h : t ∈ p.tags) :
    t.tag.name ∈ Vocabulary.emptyMetadata ++ Builder.textNames := by
  obtain ⟨i, -, hi⟩ := mem_flatMap.mp h
  rw [Option.mem_toList] at hi
  rw [mem_append]
  cases hp : i.piece with
  | filler f =>
    rw [hp] at hi
    cases hi
  | empty tag hn =>
    rw [hp] at hi
    cases hi
    exact .inl hn
  | text e =>
    rw [hp] at hi
    cases hi
    exact .inr e.mem_textNames

theorem name_ne_of_mem_tags (h : t ∈ p.tags) : t.tag.name ≠ "html" ∧ t.tag.name ≠ "head" := by
  have hnames : ∀ name ∈ Vocabulary.emptyMetadata ++ Builder.textNames,
      name ≠ "html" ∧ name ≠ "head" := by decide
  exact hnames _ (name_of_mem_tags h)

theorem carries_option {tag? : Option (Spaced TagText)}
    (h : ∀ s ∈ tag?, s.piece.tag.name ∉ rawTags) :
    Carries (tag?.toList.flatMap (Spaced.chars TagText.chars)) (tag?.map Spaced.piece).toList := by
  cases tag? with
  | none => exact carries_nil (scans_text not_mem_nil)
  | some s =>
    rw [Option.toList_some, flatMap_singleton]
    exact (carries_blank s.isBlank).append (TagText.carries (h s rfl))

theorem carries (p : HeadText) :
    Carries p.chars (p.rootTag?.toList ++ (p.headTag?.toList ++ p.tags)) := by
  have hroot : ∀ s ∈ p.root, s.piece.tag.name ∉ rawTags := by
    intro s hs
    rw [p.root_name s hs]
    decide
  have hhead : ∀ s ∈ p.head, s.piece.tag.name ∉ rawTags := by
    intro s hs
    rw [p.head_name s hs]
    decide
  have hitems : Carries (p.items.flatMap (Spaced.chars Item.chars) ++ p.last) (p.tags ++ []) :=
    (carries_spaced Item.carries p.items).append (carries_blank p.isBlank)
  rw [append_nil] at hitems
  exact (carries_fillers p.front).append <| (carries_option hroot).append <|
    (carries_fillers p.inner).append <| (carries_option hhead).append hitems

def Told (p : HeadText) (t : TagText) (tag : StartTag) : Prop :=
  ∃ front back, p.chars = front ++ (t.chars ++ back) ∧ tag = t.startTag (width front)

theorem forall₂_told (p : HeadText) :
    Forall₂ p.Told (p.rootTag?.toList ++ (p.headTag?.toList ++ p.tags)) (scan p.source) := by
  obtain ⟨tags, hs, ht⟩ := p.carries
  rw [scan_eq, source, String.toList_ofList, hs.scanFrom]
  refine (ht 0).imp ?_
  rintro t tag ⟨front, back, hchars, rfl⟩
  exact ⟨front, back, hchars, by rw [Nat.zero_add]⟩

theorem Told.name_eq (h : p.Told t tag) : tag.name = t.tag.name := by
  obtain ⟨front, back, -, rfl⟩ := h
  rfl

theorem name_ne_of_told {ts : List TagText} {tags : List StartTag} (h : Forall₂ p.Told ts tags)
    {name : String} (hts : ∀ t ∈ ts, t.tag.name ≠ name) : ∀ tag ∈ tags, tag.name ≠ name := by
  have hnames : ts.map (·.tag.name) = tags.map (·.name) := by
    rw [← forall₂_eq_eq_eq, forall₂_map_left_iff, forall₂_map_right_iff]
    exact h.imp fun t tag ht => ht.name_eq.symm
  intro tag htag he
  have hm : tag.name ∈ ts.map (·.tag.name) := hnames ▸ mem_map_of_mem htag
  obtain ⟨t, ht, hn⟩ := mem_map.mp hm
  exact hts t ht (hn.trans he)

/-- A tag that may be left out takes part in the pairing only if it is written. -/
theorem exists_pair_option {tag? : Option TagText} {ts : List TagText} {tags : List StartTag}
    {name : String} (h : Forall₂ p.Told (tag?.toList ++ ts) tags)
    (hname : ∀ t ∈ tag?, t.tag.name = name) (hts : ∀ t ∈ ts, t.tag.name ≠ name) (place : Place)
    (elements : List (Place × String)) :
    ∃ first rest,
      Located.pair ((place, name) :: elements) tags = first ++ Located.pair elements rest ∧
      Forall₂ p.Told ts rest ∧ ∀ q ∈ first, q.1 = place := by
  cases tag? with
  | none =>
    refine ⟨[], tags, Located.pair_of_not_mem (name_ne_of_told h hts), h, fun q hq => ?_⟩
    cases hq
  | some t =>
    obtain ⟨tag, rest, htag, hrest, rfl⟩ := forall₂_cons_left_iff.mp h
    refine ⟨[(place, tag)], rest, Located.pair_cons ?_, hrest, fun q hq => ?_⟩
    · rw [htag.name_eq, hname t rfl]
    · rw [mem_singleton.mp hq]

/-- An element in a head with the start tag that is paired with it: the tag is its own. -/
def Own (p : HeadText) (o : Outline) (e : Place × String) (tag : StartTag) : Prop :=
  ∃ t ∈ p.tags, Document.Shows o.head 0 o.items e (Builder.elementOf t) ∧ p.Told t tag

/-- The pairs are those of the elements in the head, each with its own start tag, and perhaps those
of the root element and of the head itself. -/
theorem exists_pairs (p : HeadText) {o : Outline}
    {kinds : List (Option Kind)}
    (ho : Forall₂ Node.IsLeaf o.items kinds)
    (hk : kinds.reduceOption = p.tags.map Builder.elementOf) :
    ∃ around tags,
      Located.pair o.document.elements (scan p.source) =
        around ++ (o.shown.zip tags).map (fun (e, tag) => (e.1, tag)) ∧
      Forall₂ (p.Own o) o.shown tags ∧ ∀ q ∈ around, q.1 ∉ o.shown.map (·.1) := by
  have hroot : ∀ t ∈ p.headTag?.toList ++ p.tags, t.tag.name ≠ "html" := by
    intro t ht
    rcases mem_append.mp ht with ht | ht
    · rw [name_of_mem_headTag? (Option.mem_toList.mp ht)]
      decide
    · exact (name_ne_of_mem_tags ht).1
  obtain ⟨first, rest, hfirst, hrest, hplace⟩ :=
    exists_pair_option p.forall₂_told (fun t => name_of_mem_rootTag?) hroot o.root _
  obtain ⟨second, tags, hsecond, htags, hplace'⟩ := exists_pair_option hrest
    (fun t => name_of_mem_headTag?) (fun t ht => (name_ne_of_mem_tags ht).2) o.head _
  have hshows := Document.forall₂_shows ho o.head 0
  rw [hk, forall₂_map_right_iff] at hshows
  have hown : Forall₂ (p.Own o) o.shown tags := forall₂_comp hshows htags
  have hsame : Forall₂ (fun (e : Place × String) (tag : StartTag) => tag.name = e.2) o.shown
      tags := by
    refine hown.imp ?_
    rintro e tag ⟨t, -, ⟨j, n, rfl, -⟩, htold⟩
    exact htold.name_eq
  refine ⟨first ++ second, tags, ?_, hown, fun q hq hm => ?_⟩
  · rw [o.elements_document, hfirst, hsecond, Located.pair_append hsame, append_assoc]
  · obtain ⟨e, he, heq⟩ := mem_map.mp hm
    obtain ⟨tag, hzip⟩ := exists_mem_zip hown.length_eq he
    obtain ⟨t, -, ⟨j, n, rfl, -⟩, -⟩ := forall₂_zip hown hzip
    rcases mem_append.mp hq with hq | hq
    · exact absurd (heq.trans (hplace q hq)) (by simp [Outline.head, Outline.root])
    · exact absurd (heq.trans (hplace' q hq)) (cons_ne_self _ _)

end HeadText

namespace Page

variable {source : String} {o : Outline}
  {kinds : List (Option Kind)}

theorem head_of_document (h : Document.parse source = o.document) :
    (parse source).head = o.head := by
  have hd : (parse source).document = o.document := h
  rw [head, hd, o.head?_document]
  rfl

theorem firstInHead?_of_document (h : Document.parse source = o.document)
    (ho : Forall₂ Node.IsLeaf o.items kinds) {kind : Kind}
    {more : Builder.Elements} (hk : kinds.reduceOption = kind :: more) :
    ∃ m, (parse source).firstInHead? = some m ∧ m.tag? = some kind.1 ∧ m.attrs = kind.2 := by
  have hd : (parse source).document = o.document := h
  have hshows := Document.forall₂_shows ho o.head 0
  rw [hk] at hshows
  obtain ⟨e, es, ⟨j, m, rfl, hm, ht, ha⟩, -, hes⟩ := forall₂_cons_right_iff.mp hshows
  refine ⟨m, ?_, ht, ha⟩
  rw [firstInHead?, head_of_document h, hd, o.children_head ho, Outline.shown, hes,
    map_cons, head?_cons, Option.bind_some, o.get?_item, Nat.zero_add, hm]

/-- Where a start tag of the page is said to stand, there is an element by itself that reads as
the one in the page. -/
theorem firstInHead?_slice {p : HeadText} {t : TagText} {tag : StartTag} (ht : t ∈ p.tags)
    (h : p.Told t tag) (hr : '\r' ∉ p.chars) :
    ∃ m, (parse (slice p.source (Located.location p.source tag))).firstInHead? = some m ∧
      m.tag? = some t.tag.name ∧ m.attrs = t.tag.attrs := by
  obtain ⟨front, back, hchars, rfl⟩ := h
  have hslice : slice p.source (Located.location p.source (t.startTag (width front))) =
      String.ofList t.chars := by
    have hsource : p.source.toList = front ++ (t.body ++ '>' :: back) := by
      rw [HeadText.source, String.toList_ofList, hchars, TagText.chars, append_assoc]
      rfl
    rw [TagText.startTag, ← width_append]
    exact slice_location hsource _
  have hreturn : '\r' ∉ t.chars := by
    rw [hchars, mem_append, mem_append, not_or, not_or] at hr
    exact hr.2.1
  obtain ⟨b, hended, hparse⟩ :=
    Builder.exists_ended_tag t (mem_append.mp (HeadText.name_of_mem_tags ht)) hreturn
  obtain ⟨o, kinds, latter, hb, ho, hk, -⟩ := hended.exists_outline
  rw [hslice]
  exact firstInHead?_of_document (hparse.trans hb) ho hk

/-- The elements in the head of a plainly written page all have locations, and each one has that of
its own start tag. -/
theorem locatesOwn_headText (p : HeadText) (hr : '\r' ∉ p.chars) :
    LocatesOwn p.source ∧
      ∀ place ∈ (parse p.source).document.children (parse p.source).head,
        ((parse p.source).adapter.location place).isSome = true := by
  obtain ⟨b, hended, hparse⟩ := Builder.exists_ended_headText p hr
  obtain ⟨o, kinds, latter, hb, ho, hk, -⟩ := hended.exists_outline
  have hdoc : Document.parse p.source = o.document := hparse.trans hb
  obtain ⟨around, tags, hpairs, hown, haround⟩ := p.exists_pairs ho hk
  have hd : (parse p.source).document = o.document := hdoc
  have hchildren : (parse p.source).document.children (parse p.source).head =
      o.shown.map (·.1) := by
    rw [head_of_document hdoc, hd, o.children_head ho]
  rw [LocatesOwn, hchildren]
  refine ⟨fun place hplace l hl => ?_, fun place hplace => ?_⟩
  · rw [location_eq_lookup, hdoc] at hl
    obtain ⟨tag, hpair, rfl⟩ := Located.mem_pair_of_lookup hl
    rw [hpairs, mem_append] at hpair
    obtain ⟨⟨e, tag'⟩, hzip, he⟩ := mem_map.mp (hpair.resolve_left fun hq => haround _ hq hplace)
    cases he
    obtain ⟨t, ht, ⟨j, n, rfl, hn, hntag, hnattrs⟩, htold⟩ := forall₂_zip hown hzip
    obtain ⟨m, hm, hmtag, hmattrs⟩ := firstInHead?_slice ht htold hr
    refine ⟨n, m, ?_, hm, hmtag.trans hntag.symm, hmattrs.trans hnattrs.symm⟩
    rw [hd, o.get?_item, Nat.zero_add, hn]
  · obtain ⟨e, he, rfl⟩ := mem_map.mp hplace
    obtain ⟨tag, hzip⟩ := exists_mem_zip hown.length_eq he
    have hpair : (e.1, tag) ∈ Located.pair o.document.elements (scan p.source) := by
      rw [hpairs]
      exact mem_append_right around (mem_map.mpr ⟨_, hzip, rfl⟩)
    rw [location_eq_lookup, hdoc]
    exact Located.lookup_isSome hpair

def bareMeta : TagText where
  name := "meta".toList
  attrs := [
    { gap := [' ']
      name := "name".toList
      value := some ('\'', "\">é".toList)
      gap_ne := by decide
      isBlank := by simp [Ascii.isBlank]
      name_ne := by decide
      nameChar := by simp [Lexer.endsName, Ascii.isBlank]
      unmarked := by decide
      quoted := by simp }]
  gap := [' ']
  selfClosing := true
  plain := by decide
  isBlank := by simp [Ascii.isBlank]

def bareHead : HeadText where
  front := [
    { gap := []
      piece := .declaration "doctype html".toList ⟨by decide, by decide⟩
      isBlank := by simp },
    { gap := ['\n']
      piece := .comment " <head> ".toList ⟨by decide, by decide⟩
      isBlank := by simp [Ascii.isBlank] }]
  root := none
  inner := []
  head := none
  items := [
    { gap := ['\n']
      piece := .empty bareMeta (by decide)
      isBlank := by simp [Ascii.isBlank] },
    { gap := []
      piece := .text
        { tag := ⟨"title".toList, [], [], false, by decide, by simp⟩
          content := "a < b</p>".toList
          mem_textNames := by decide
          unended := by decide
          uncommented := by decide }
      isBlank := by simp }]
  last := ['\n']
  root_name := by simp
  head_name := by simp
  isBlank := by simp [Ascii.isBlank]

theorem locatesOwn_bareHead :
    bareHead.source =
        "<!doctype html>\n<!-- <head> -->\n<meta name='\">é' /><title>a < b</p></title>\n" ∧
      LocatesOwn bareHead.source ∧
      ∀ place ∈ (parse bareHead.source).document.children (parse bareHead.source).head,
        ((parse bareHead.source).adapter.location place).isSome = true :=
  ⟨by decide +kernel, locatesOwn_headText bareHead (by decide)⟩

end Page

end HeadAudit.Markup

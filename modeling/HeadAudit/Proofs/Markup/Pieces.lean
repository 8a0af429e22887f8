import HeadAudit.Proofs.Markup.Lexing

namespace HeadAudit.Markup

open List StartTag

inductive Filler where
  | comment (s : List Char) (h : IsCommentText s)
  | declaration (s : List Char) (h : IsDeclarationText s)

def Filler.chars : Filler → List Char
  | comment s _ => '<' :: '!' :: '-' :: '-' :: (s ++ ['-', '-', '>'])
  | declaration s _ => '<' :: '!' :: (s ++ ['>'])

structure TextElement where
  tag : TagText
  content : List Char
  mem_textNames : tag.tag.name ∈ Builder.textNames
  unended : Unended tag.name content
  uncommented : tag.tag.name = "script" → ¬"<!--".toList <:+: content

def TextElement.chars (e : TextElement) : List Char :=
  e.tag.body ++ '>' :: (e.content ++ '<' :: '/' :: (e.tag.name ++ ['>']))

inductive Item where
  | filler (f : Filler)
  | empty (tag : TagText) (h : tag.tag.name ∈ Vocabulary.emptyMetadata)
  | text (e : TextElement)

namespace Item

def chars : Item → List Char
  | filler f => f.chars
  | empty tag _ => tag.chars
  | text e => e.chars

def tag? : Item → Option TagText
  | filler _ => none
  | empty tag _ => some tag
  | text e => some e.tag

end Item

theorem atBracket_append {s : List Char} (h : ∃ s', s = '<' :: s') (cs : List Char) :
    AtBracket (s ++ cs) := by
  obtain ⟨s', rfl⟩ := h
  rintro c ⟨⟩
  rfl

theorem Filler.exists_chars (f : Filler) : ∃ s, f.chars = '<' :: s := by
  cases f <;> exact ⟨_, rfl⟩

theorem Item.exists_chars (i : Item) : ∃ s, i.chars = '<' :: s := by
  cases i with
  | filler f => exact f.exists_chars
  | empty tag h => exact ⟨_, rfl⟩
  | text e => exact ⟨_, rfl⟩

section Scans

def TagText.startTag (t : TagText) (pos : Nat) : StartTag :=
  ⟨String.ofList t.name, pos, pos + width t.body⟩

theorem Filler.scans (f : Filler) : Scans f.chars fun _ => [] := by
  apply scans_nil_of_found
  intro cs
  cases f with
  | comment s h =>
    have hb : behind "-->".toList (s ++ ['-', '-', '>'] ++ cs) = cs := by
      rw [append_assoc, behind, suffix?_append, suffix?_self]
      · rfl
      · rfl
      · exact fun t ht hs => Lexer.not_closing h.closed.1 ht hs cs
    have hl : cs.length ≤ ('!' :: '-' :: '-' :: (s ++ ['-', '-', '>'] ++ cs)).length := by
      simp
      omega
    have hf : found ('<' :: '!' :: '-' :: '-' :: (s ++ ['-', '-', '>'] ++ cs)) =
        search ('!' :: '-' :: '-' :: (s ++ ['-', '-', '>'] ++ cs)).length
          (behind "-->".toList (s ++ ['-', '-', '>'] ++ cs)) := rfl
    rw [chars, cons_append, cons_append, cons_append, cons_append, hf, hb, search_eq_found hl]
  | declaration s h =>
    have hb : behind ['>'] ('!' :: (s ++ '>' :: cs)) = cs := by
      rw [← cons_append, behind_append]
      simpa using h.closed
    have hl : cs.length ≤ ('!' :: (s ++ '>' :: cs)).length := by
      simp
      omega
    have hcomment : "!--".toList.isPrefixOf ('!' :: (s ++ '>' :: cs)) = false := by
      apply Lexer.isPrefixOf_eq_false
      rcases s with _ | ⟨c, _ | ⟨d, s⟩⟩
      · simp
      · simp
      · simpa using h.start
    rw [chars, cons_append, cons_append, append_assoc, singleton_append, found, length_cons, search,
      hcomment, if_neg Bool.false_ne_true, if_pos (by decide), hb, search_eq_found hl]

/-- The start tags that the scanner finds in a text are those that are given, each of them where it
is written. -/
def Carries (s : List Char) (ts : List TagText) : Prop :=
  ∃ tags, Scans s tags ∧
    ∀ pos, Forall₂ (fun (t : TagText) tag => ∃ front back, s = front ++ (t.chars ++ back) ∧
      tag = t.startTag (pos + width front)) ts (tags pos)

theorem carries_nil {s : List Char} (h : Scans s fun _ => []) : Carries s [] :=
  ⟨_, h, fun _ => .nil⟩

theorem carries_tag {t : TagText} {back : List Char}
    (h : Scans (t.chars ++ back) fun pos => [t.startTag pos]) : Carries (t.chars ++ back) [t] :=
  ⟨_, h, fun _ => .cons ⟨[], back, rfl, rfl⟩ .nil⟩

theorem Carries.append {s s' : List Char} {ts ts' : List TagText} (h : Carries s ts)
    (h' : Carries s' ts') : Carries (s ++ s') (ts ++ ts') := by
  obtain ⟨tags, hs, ht⟩ := h
  obtain ⟨tags', hs', ht'⟩ := h'
  refine ⟨_, hs.append hs', fun pos => rel_append ((ht pos).imp ?_) ((ht' _).imp ?_)⟩
  · rintro t tag ⟨front, back, rfl, rfl⟩
    exact ⟨front, back ++ s', by simp only [append_assoc], rfl⟩
  · rintro t tag ⟨front, back, rfl, rfl⟩
    exact ⟨s ++ front, back, by simp only [append_assoc], by rw [width_append, Nat.add_assoc]⟩

theorem carries_flatMap {α : Type} {text : α → List Char} {tags : α → List TagText} {xs : List α}
    (h : ∀ x ∈ xs, Carries (text x) (tags x)) : Carries (xs.flatMap text) (xs.flatMap tags) := by
  induction xs with
  | nil => exact carries_nil (scans_text not_mem_nil)
  | cons x xs ih =>
    exact (h x mem_cons_self).append (ih fun y hy => h y (mem_cons_of_mem x hy))

theorem carries_blank {gap : List Char} (h : ∀ c ∈ gap, Ascii.isBlank c = true) :
    Carries gap [] :=
  carries_nil (scans_text fun hm => absurd (h _ hm) (by decide))

theorem TagText.carries {t : TagText} (h : t.tag.name ∉ rawTags) : Carries t.chars [t] := by
  have hs : Scans t.chars fun pos => [t.startTag pos] := scans_startTag t.plain t.balanced h
  rw [← append_nil t.chars] at hs ⊢
  exact carries_tag hs

theorem Item.carries (i : Item) : Carries i.chars i.tag?.toList := by
  cases i with
  | filler f => exact carries_nil f.scans
  | empty tag h =>
    have hraw : ∀ name ∈ Vocabulary.emptyMetadata, name ∉ rawTags := by decide
    exact TagText.carries (hraw _ h)
  | text e =>
    have hraw : ∀ name ∈ Builder.textNames, name ∈ rawTags := by decide
    have hs : Scans e.chars fun pos => [e.tag.startTag pos] :=
      scans_rawElement e.tag.plain e.tag.balanced (hraw _ e.mem_textNames) e.unended
    have hchars : e.chars = e.tag.chars ++ (e.content ++ '<' :: '/' :: (e.tag.name ++ ['>'])) := by
      rw [TextElement.chars, TagText.chars, append_assoc]
      rfl
    rw [chars, hchars]
    exact carries_tag (hchars ▸ hs)

end Scans

namespace Builder

variable {b c e : Builder} {cs ds rest : List Char} {level : Level} {elements : Elements}

/-- Reading one text comes down to reading another one in another state. -/
def Runs (b : Builder) (cs : List Char) (c : Builder) (rest : List Char) : Prop :=
  ∀ fuel, cs.length ≤ fuel →
    ∃ fuel', rest.length ≤ fuel' ∧ b.readAll fuel cs = c.readAll fuel' rest

theorem Runs.refl (b : Builder) (cs : List Char) : Runs b cs b cs := fun fuel h => ⟨fuel, h, rfl⟩

theorem Runs.trans (h : Runs b cs c ds) (h' : Runs c ds e rest) : Runs b cs e rest := by
  intro fuel hf
  obtain ⟨fuel', hf', he⟩ := h fuel hf
  obtain ⟨fuel'', hf'', he'⟩ := h' fuel' hf'
  exact ⟨fuel'', hf'', he.trans he'⟩

theorem Runs.readAll_eq (h : Runs b cs c []) : b.readAll cs.length cs = c := by
  obtain ⟨fuel, -, he⟩ := h cs.length le_rfl
  rw [he]
  cases fuel <;> rfl

theorem Plain.runs_next (hp : Plain b) {tokens : List Token}
    (hn : Lexer.next b.textMode false cs = (tokens, rest)) (hl : rest.length < cs.length) :
    Runs b cs (tokens.foldl read { b with textMode := .markup }) rest := by
  intro fuel hf
  cases fuel with
  | zero => omega
  | succ fuel =>
    refine ⟨fuel, by omega, ?_⟩
    have hne : cs.isEmpty = false := by
      cases cs with
      | nil => cases hl
      | cons c cs => rfl
    rw [readAll, hne, if_neg Bool.false_ne_true, hp.isForeign, hn]

theorem Stage.markup_eq (h : Stage level b elements) : { b with textMode := .markup } = b := by
  have hm := h.textMode
  cases b
  cases hm
  rfl

theorem Stage.runs (h : Stage level b elements) {tokens : List Token}
    (hn : Lexer.markup false cs = (tokens, rest)) (hl : rest.length < cs.length) :
    Runs b cs (tokens.foldl read b) rest := by
  have hnext : Lexer.next b.textMode false cs = (tokens, rest) := by
    rw [h.textMode]
    exact hn
  have hr := h.plain.runs_next hnext hl
  rwa [h.markup_eq] at hr

theorem Stage.runs_gap (h : Stage level b elements) {gap : List Char}
    (hg : ∀ c ∈ gap, Ascii.isBlank c = true) (hr : AtBracket rest) :
    ∃ c, Stage level c elements ∧ Runs b (gap ++ rest) c rest := by
  by_cases hne : gap = []
  · subst hne
    exact ⟨b, h, .refl b rest⟩
  · have hb : '<' ∉ gap := fun hm => absurd (hg _ hm) (by decide)
    have hpos := length_pos_of_ne_nil hne
    refine ⟨_, ?_, h.runs (Lexer.markup_text hne hb hr) (by rw [length_append]; omega)⟩
    have hfold (tokens : List Token) (ht : ∀ t ∈ tokens, ∃ s, t = .blank s) (b : Builder)
        (h : Stage level b elements) : Stage level (tokens.foldl read b) elements := by
      induction tokens generalizing b with
      | nil => exact h
      | cons t tokens ih =>
        obtain ⟨s, rfl⟩ := ht t mem_cons_self
        exact ih (fun u hu => ht u (mem_cons_of_mem _ hu)) _ (h.read_blank s)
    exact hfold _ (fun t => Lexer.blank_of_mem_referring hg) b h

theorem Stage.runs_filler (h : Stage level b elements) (f : Filler) (rest : List Char) :
    ∃ c, Stage level c elements ∧ Runs b (f.chars ++ rest) c rest := by
  have hl : rest.length < (f.chars ++ rest).length := by
    obtain ⟨s, hs⟩ := f.exists_chars
    rw [hs]
    simp
  cases f with
  | comment s hs =>
    have hm : Lexer.markup false ((Filler.comment s hs).chars ++ rest) =
        ([.comment (Lexer.visibleText s)], rest) := by
      have hc := Lexer.comment_chars hs rest
      rw [Filler.chars, cons_append, cons_append, cons_append, cons_append, append_assoc]
      exact hc
    exact ⟨_, h.read_comment _, h.runs hm hl⟩
  | declaration s hs =>
    obtain ⟨t, ht, hk⟩ := Lexer.declaration_chars hs rest
    have hm : Lexer.markup false ((Filler.declaration s hs).chars ++ rest) = ([t], rest) := by
      rw [Filler.chars, cons_append, cons_append, append_assoc]
      exact ht
    refine ⟨_, ?_, h.runs hm hl⟩
    rcases hk with ⟨d, rfl⟩ | ⟨s, rfl⟩
    · exact h.read_doctype d
    · exact h.read_comment s

theorem Stage.runs_opening (h : Stage level b elements) (t : TagText) (rest : List Char) :
    Runs b (t.chars ++ rest) (b.read (.opening t.tag)) rest := by
  refine h.runs (Lexer.markup_opening t rest) ?_
  rw [length_append, TagText.chars, length_append, length_singleton]
  omega

theorem InText.runs_content {m : TextMode} (h : InText b m elements) {name content : List Char}
    {tokens : List Token} (ht : ∀ t ∈ tokens, IsText t)
    (hn : Lexer.next m false (content ++ '<' :: '/' :: (name ++ '>' :: rest)) =
      (tokens ++ [.closing (String.ofList name)], rest)) :
    ∃ c, Stage .head c elements ∧
      Runs b (content ++ '<' :: '/' :: (name ++ '>' :: rest)) c rest := by
  have hl : rest.length < (content ++ '<' :: '/' :: (name ++ '>' :: rest)).length := by
    simp
    omega
  have hnext := hn
  rw [← h.textMode] at hnext
  refine ⟨_, ?_, h.plain.runs_next hnext hl⟩
  have hmarkup : InText { b with textMode := .markup } .markup elements :=
    { h with
      textMode := rfl
      skipBreak := h.skipBreak
      fostering := h.fostering
      templateModes := h.templateModes }
  have hfold (tokens : List Token) (ht : ∀ t ∈ tokens, IsText t) (b : Builder)
      (h : InText b .markup elements) : InText (tokens.foldl read b) .markup elements := by
    induction tokens generalizing b with
    | nil => exact h
    | cons t tokens ih =>
      exact ih (fun u hu => ht u (mem_cons_of_mem _ hu)) _ (h.read_text (ht t mem_cons_self))
  rw [foldl_append]
  exact (hfold tokens ht _ hmarkup).read_closing _

def elementOf (t : TagText) : Kind := (t.tag.name, t.tag.attrs)

theorem Stage.runs_text (h : Stage level b elements) (e : TextElement)
    (hr : '\ufeff' ∉ rest.head?) :
    ∃ c, Stage .head c (elements ++ [elementOf e.tag]) ∧ Runs b (e.chars ++ rest) c rest := by
  obtain ⟨tokens, ht, hn⟩ :=
    Lexer.next_content e.tag.plain e.mem_textNames e.unended e.uncommented hr false
  obtain ⟨c, hc, hruns⟩ := (h.read_text e.mem_textNames).runs_content ht hn
  refine ⟨c, hc, ?_⟩
  have hchars : e.chars ++ rest =
      e.tag.chars ++ (e.content ++ '<' :: '/' :: (e.tag.name ++ '>' :: rest)) := by
    simp [TextElement.chars, TagText.chars]
  rw [hchars]
  exact (h.runs_opening e.tag _).trans hruns

theorem Stage.runs_item (h : Stage level b elements) (i : Item) (hr : '\ufeff' ∉ rest.head?) :
    ∃ level' c, Stage level' c (elements ++ i.tag?.toList.map elementOf) ∧
      Runs b (i.chars ++ rest) c rest := by
  cases i with
  | filler f =>
    obtain ⟨c, hc, hruns⟩ := h.runs_filler f rest
    exact ⟨level, c, (append_nil elements).symm ▸ hc, hruns⟩
  | empty tag ht => exact ⟨.head, _, h.read_empty ht, h.runs_opening tag rest⟩
  | text e =>
    obtain ⟨c, hc, hruns⟩ := h.runs_text e hr
    exact ⟨.head, c, hc, hruns⟩

end Builder

end HeadAudit.Markup

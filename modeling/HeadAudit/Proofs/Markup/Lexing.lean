import HeadAudit.Proofs.Markup.Stages
import HeadAudit.Proofs.Markup.TagText

namespace HeadAudit.Markup

open List StartTag

structure IsCommentText (s : List Char) : Prop where
  start : ¬['>'] <+: s ∧ ¬['-', '>'] <+: s
  closed : ¬['-', '-', '>'] <:+: s ∧ ¬['-', '-', '!', '>'] <:+: s

structure IsDeclarationText (s : List Char) : Prop where
  start : ¬['-', '-'] <+: s
  closed : '>' ∉ s

def AtBracket (cs : List Char) : Prop := ∀ c ∈ cs.head?, c = '<'

namespace Lexer

variable {cs s t rest : List Char} {p : List Char → Bool}

section Patterns

theorem splitBefore_append (h : ∀ t, t ≠ [] → t <:+ s → p (t ++ cs) = false) (hp : p cs = true) :
    splitBefore p (s ++ cs) = (s, cs) := by
  induction s with
  | nil =>
    cases cs with
    | nil => rfl
    | cons c cs => rw [nil_append, splitBefore, if_pos hp]
  | cons c s ih =>
    have hc : p (c :: s ++ cs) = false := h (c :: s) (cons_ne_nil c s) suffix_rfl
    rw [cons_append] at hc
    rw [cons_append, splitBefore, hc, if_neg Bool.false_ne_true,
      ih fun t ht hs => h t ht (hs.trans (suffix_cons c s))]

theorem isPrefixOf_eq_false {pattern : List Char} (h : ¬pattern <+: s) :
    pattern.isPrefixOf s = false := by
  rw [← Bool.not_eq_true, isPrefixOf_iff_prefix]
  exact h

theorem not_closing (h : ¬['-', '-', '>'] <:+: s) (ht : t ≠ []) (hs : t <:+ s)
    (cs : List Char) : ['-', '-', '>'].isPrefixOf (t ++ '-' :: '-' :: '>' :: cs) = false := by
  apply isPrefixOf_eq_false
  match t with
  | [] => contradiction
  | [c] => simp
  | [c, d] => simp
  | c :: d :: e :: t =>
    have hp : ¬['-', '-', '>'] <+: c :: d :: e :: t :=
      fun hp => h (infix_iff_prefix_suffix.mpr ⟨_, hp, hs⟩)
    simpa using hp

theorem not_oddClosing (h : ¬['-', '-', '!', '>'] <:+: s) (ht : t ≠ []) (hs : t <:+ s)
    (cs : List Char) : ['-', '-', '!', '>'].isPrefixOf (t ++ '-' :: '-' :: '>' :: cs) = false := by
  apply isPrefixOf_eq_false
  match t with
  | [] => contradiction
  | [c] => simp
  | [c, d] => simp
  | [c, d, e] => simp
  | c :: d :: e :: f :: t =>
    have hp : ¬['-', '-', '!', '>'] <+: c :: d :: e :: f :: t :=
      fun hp => h (infix_iff_prefix_suffix.mpr ⟨_, hp, hs⟩)
    simpa using hp

theorem length_le_of_startsWith {keyword : List Char} (h : Ascii.startsWith keyword s = true) :
    keyword.length ≤ s.length := by
  induction keyword generalizing s with
  | nil => exact Nat.zero_le _
  | cons k keyword ih =>
    cases s with
    | nil => cases h
    | cons c s =>
      rw [Ascii.startsWith, Bool.and_eq_true] at h
      exact Nat.succ_le_succ (ih h.2)

end Patterns

section Tokens

theorem replace_of_not_mem {place : Reference.Place} {fuel : Nat} (h : '&' ∉ s)
    (hf : s.length ≤ fuel) : Reference.replace place fuel s = s := by
  induction s generalizing fuel with
  | nil => cases fuel <;> rfl
  | cons c s ih =>
    cases fuel with
    | zero => cases hf
    | succ fuel =>
      obtain ⟨hc, hs⟩ := not_or.mp (mem_cons.not.mp h)
      rw [Reference.replace, ih hs (Nat.le_of_succ_le_succ hf)]
      exact fun he => hc he.symm

theorem isText_of_mem_runs {token : Token} (h : token ∈ runs cs) : Builder.IsText token := by
  obtain ⟨run, -, rfl⟩ := mem_map.mp h
  split
  · trivial
  · split <;> trivial

theorem isText_of_mem_referring {token : Token} (h : token ∈ referring cs) :
    Builder.IsText token := by
  rw [referring, mem_append] at h
  rcases h with h | h
  · split at h
    · rw [mem_singleton.mp h]
      trivial
    · cases h
  · exact isText_of_mem_runs h

theorem blank_of_mem_referring (h : ∀ c ∈ cs, Ascii.isBlank c = true) {token : Token}
    (ht : token ∈ referring cs) : ∃ s, token = .blank s := by
  have hamp : '&' ∉ cs := fun hm => absurd (h _ hm) (by decide)
  have hfaulty : Reference.startsFaulty cs = false := by
    rw [Reference.startsFaulty]
    all_goals
      rintro rest rfl
      exact hamp mem_cons_self
  rw [referring, hfaulty, Reference.decode, replace_of_not_mem hamp le_rfl] at ht
  obtain ⟨run, hr, rfl⟩ := mem_map.mp ht
  have hrun : ∀ c ∈ run, Ascii.isBlank c = true := by
    intro c hc
    have hm := mem_flatten_of_mem hr hc
    rw [flatten_splitBy] at hm
    exact h c hm
  split
  · exact absurd (hrun '\x00' mem_cons_self) (by decide)
  · rw [if_pos (all_eq_true.mpr hrun)]
    exact ⟨_, rfl⟩

end Tokens

section Pieces

theorem markup_text {verbatim : Bool} (hs : s ≠ []) (hb : '<' ∉ s) (hr : AtBracket rest) :
    markup verbatim (s ++ rest) = (referring s, rest) := by
  obtain ⟨c, s', rfl⟩ := exists_cons_of_ne_nil hs
  have hc : c ≠ '<' := (ne_of_mem_of_not_mem mem_cons_self hb)
  have hspan : (c :: s' ++ rest).span (· != '<') = (c :: s', rest) := by
    have hp : ∀ d ∈ c :: s', (d != '<') = true := by
      intro d hd
      simpa using ne_of_mem_of_not_mem hd hb
    cases rest with
    | nil => rw [append_nil, span_eq_takeWhile_dropWhile, takeWhile_eq_self_iff.mpr hp,
        dropWhile_eq_nil_iff.mpr hp]
    | cons d rest =>
      rw [hr d rfl]
      exact span_name hp (by decide) rest
  rw [cons_append] at hspan ⊢
  rw [markup]
  · rw [hspan]
  · simp
  · exact fun cs he => hc (cons_eq_cons.mp he).1

theorem markup_opening {verbatim : Bool} (t : TagText) (rest : List Char) :
    markup verbatim (t.chars ++ rest) = ([.opening t.tag], rest) := by
  obtain ⟨c, s, hname, hc⟩ := (isName_of_isPlain t.plain).letter
  obtain ⟨hn, hq, he⟩ := ne_of_isLetter hc
  have htag := tag?_chars t rest
  have hchars : t.chars ++ rest = '<' :: (t.name ++ (t.attrChars ++ '>' :: rest)) := by
    simp [TagText.chars, TagText.body]
  rw [hchars]
  rw [hname, cons_append] at htag ⊢
  rw [markup, if_pos hc, opening, htag]
  · exact hn
  · exact hq
  · exact he

theorem closing_chars {name : List Char} (h : isPlain name = true) (rest : List Char) :
    closing (name ++ '>' :: rest) = ([.closing (String.ofList name)], rest) := by
  have htag := tag?_chars ⟨name, [], [], false, h, fun c hc => absurd hc not_mem_nil⟩ rest
  rw [closing]
  change tag? (name ++ '>' :: rest) = _ at htag
  rw [htag]
  rfl

theorem comment_chars (h : IsCommentText s) (rest : List Char) :
    comment (s ++ '-' :: '-' :: '>' :: rest) = ([.comment (visibleText s)], rest) := by
  have hsplit : splitBefore
      (fun cs => "-->".toList.isPrefixOf cs || "--!>".toList.isPrefixOf cs)
      (s ++ '-' :: '-' :: '>' :: rest) = (s, '-' :: '-' :: '>' :: rest) := by
    apply splitBefore_append
    · intro t ht hs
      rw [Bool.or_eq_false_iff]
      exact ⟨not_closing h.closed.1 ht hs rest, not_oddClosing h.closed.2 ht hs rest⟩
    · rfl
  rw [comment, hsplit]
  · rfl
  · intro cs he
    cases s with
    | nil => cases he
    | cons c s =>
      cases he
      exact h.start.1 (prefix_append ['>'] s)
  · intro cs he
    match s with
    | [] => cases he
    | [c] => cases he
    | c :: d :: s =>
      cases he
      exact h.start.2 (prefix_append ['-', '>'] s)

theorem declaration_chars (h : IsDeclarationText s) (rest : List Char) :
    ∃ token, declaration false (s ++ '>' :: rest) = ([token], rest) ∧
      ((∃ d, token = .doctype d) ∨ ∃ text, token = .comment text) := by
  have hcomment : "--".toList.isPrefixOf (s ++ '>' :: rest) = false := by
    apply isPrefixOf_eq_false
    match s with
    | [] => simp
    | [c] => simp
    | c :: d :: s => simpa using h.start
  have hstart : Ascii.startsWith "doctype".toList (s ++ '>' :: rest) =
      Ascii.startsWith "doctype".toList s := startsWith_append_of_not_mem (by decide) s
  rw [declaration, hcomment, if_neg Bool.false_ne_true, hstart]
  split
  · rename_i hd
    have hdrop : (s ++ '>' :: rest).drop 7 = s.drop 7 ++ '>' :: rest :=
      drop_append_of_le_length (length_le_of_startsWith hd)
    have hspan : (s.drop 7 ++ '>' :: rest).span (· != '>') = (s.drop 7, '>' :: rest) := by
      apply span_name _ (by decide)
      intro c hc
      simpa using ne_of_mem_of_not_mem (mem_of_mem_drop hc) h.closed
    rw [hdrop, doctype, hspan]
    exact ⟨_, rfl, .inl ⟨_, rfl⟩⟩
  · have hsplit : splitBefore ">".toList.isPrefixOf (s ++ '>' :: rest) = (s, '>' :: rest) := by
      apply splitBefore_append
      · intro t ht hs
        obtain ⟨c, t, rfl⟩ := exists_cons_of_ne_nil ht
        have hc : '>' ≠ c := (ne_of_mem_of_not_mem (hs.mem mem_cons_self) h.closed).symm
        apply isPrefixOf_eq_false
        simpa using hc
      · rfl
    rw [Bool.false_and, if_neg Bool.false_ne_true, strayComment, splitAround, hsplit]
    exact ⟨_, rfl, .inr ⟨_, rfl⟩⟩

end Pieces

section Content

variable {name content : List Char}

theorem startsWithName_content (hn : '<' ∉ name) (hu : Unended name content) (ht : t ≠ [])
    (hs : t <:+ content) (cs : List Char) {keyword : String}
    (hk : keyword.toList = '<' :: '/' :: name) :
    startsWithName keyword (t ++ '<' :: cs) = false := by
  have he : Ascii.startsWith ('<' :: '/' :: name) (t ++ '<' :: cs) = false := by
    have hend : isEndOf name (t ++ '<' :: cs) = isEndOf name t := isEndOf_append hn ht
    rw [hu t hs] at hend
    exact hend
  rw [startsWithName, hk, he, Bool.false_and]

theorem startsWithName_endTag (hl : ∀ c ∈ name, c.toLower = c) {keyword : String}
    (hk : keyword.toList = '<' :: '/' :: name) (rest : List Char) :
    startsWithName keyword ('<' :: '/' :: (name ++ '>' :: rest)) = true := by
  have hlower : ∀ c ∈ '<' :: '/' :: name, c.toLower = c := by
    rw [forall_mem_cons, forall_mem_cons]
    exact ⟨by decide, by decide, hl⟩
  have hstart : Ascii.startsWith ('<' :: '/' :: name) ('<' :: '/' :: (name ++ '>' :: rest)) =
      true := startsWith_self hlower
  have hlen : keyword.length = name.length + 2 := by
    rw [← String.length_toList, hk]
    rfl
  have hget : ('<' :: '/' :: (name ++ '>' :: rest))[keyword.length]? = some '>' := by
    rw [hlen, getElem?_cons_succ, getElem?_cons_succ, getElem?_append_right le_rfl, Nat.sub_self]
    rfl
  rw [startsWithName, hk, hstart, hget]
  rfl

theorem splitBefore_content (hn : isPlain name = true) (hu : Unended name content)
    (rest : List Char) :
    splitBefore (startsWithName ("</" ++ String.ofList name))
        (content ++ '<' :: '/' :: (name ++ '>' :: rest)) =
      (content, '<' :: '/' :: (name ++ '>' :: rest)) := by
  have hk : ("</" ++ String.ofList name).toList = '<' :: '/' :: name := by simp
  apply splitBefore_append
  · intro t ht hs
    exact startsWithName_content (isName_of_isPlain hn).not_mem.1 hu ht hs _ hk
  · exact startsWithName_endTag (toLower_of_isPlain hn) hk rest

theorem scriptLength_content {fuel : Nat} (hu : Unended "script".toList content)
    (hc : ¬"<!--".toList <:+: content)
    (hf : (content ++ '<' :: '/' :: ("script".toList ++ '>' :: rest)).length ≤ fuel) :
    scriptLength fuel .none (content ++ '<' :: '/' :: ("script".toList ++ '>' :: rest)) =
      content.length := by
  have hk : "</script".toList = '<' :: '/' :: "script".toList := rfl
  have hplain : isPlain "script".toList = true := by decide
  induction content generalizing fuel with
  | nil =>
    cases fuel with
    | zero => cases hf
    | succ fuel =>
      rw [nil_append, scriptLength, Nesting.step?,
        startsWithName_endTag (toLower_of_isPlain hplain) hk rest]
      · rfl
      · simp
  | cons c content ih =>
    cases fuel with
    | zero => cases hf
    | succ fuel =>
      have hend := startsWithName_content (isName_of_isPlain hplain).not_mem.1 hu
        (cons_ne_nil c content) suffix_rfl ('/' :: ("script".toList ++ '>' :: rest)) hk
      -- a comment in the script would need another `<` than that of the end tag
      have hopen : "<!--".toList.isPrefixOf
          (c :: content ++ '<' :: '/' :: ("script".toList ++ '>' :: rest)) = false := by
        apply isPrefixOf_eq_false
        match content with
        | [] => simp
        | [d] => simp
        | [d, e] => simp
        | d :: e :: f :: content =>
          have hp : ¬"<!--".toList <+: c :: d :: e :: f :: content := fun hp => hc hp.isInfix
          simpa using hp
      rw [cons_append] at hend hopen hf ⊢
      rw [scriptLength, Nesting.step?, hend, hopen]
      · have hrest : scriptLength fuel .none
            (content ++ '<' :: '/' :: ("script".toList ++ '>' :: rest)) = content.length :=
          ih (fun t ht => hu t (ht.trans (suffix_cons c content)))
            (fun h => hc (h.trans (suffix_cons c content).isInfix)) (Nat.le_of_succ_le_succ hf)
        simp only [Bool.false_eq_true, if_false, drop_one, tail_cons, hrest, length_cons]
        exact Nat.add_comm 1 _
      · simp

theorem enclosed_endTag (hn : isPlain name = true) (tokens : List Token) (rest : List Char) :
    enclosed tokens ('<' :: '/' :: (name ++ '>' :: rest)) =
      (tokens ++ [.closing (String.ofList name)], rest) := by
  have hdrop : ('<' :: '/' :: (name ++ '>' :: rest)).drop 2 = name ++ '>' :: rest := rfl
  simp only [enclosed, isEmpty_cons, Bool.false_eq_true, if_false, hdrop, closing_chars hn]

theorem withoutMark_eq_self (h : '\ufeff' ∉ rest.head?) : withoutMark rest = rest := by
  rw [withoutMark]
  rintro cs rfl
  exact h rfl

/-- Content and the end tag behind it are read at once. -/
theorem next_content (hn : isPlain name = true) (hname : String.ofList name ∈ Builder.textNames)
    (hu : Unended name content) (hc : String.ofList name = "script" → ¬"<!--".toList <:+: content)
    (hr : '\ufeff' ∉ rest.head?) (verbatim : Bool) :
    ∃ tokens, (∀ t ∈ tokens, Builder.IsText t) ∧
      next (Builder.textModeOf (String.ofList name)) verbatim
          (content ++ '<' :: '/' :: (name ++ '>' :: rest)) =
        (tokens ++ [.closing (String.ofList name)], rest) := by
  have hsplit := splitBefore_content hn hu rest
  rw [Builder.textModeOf]
  split_ifs with ht hscript
  · refine ⟨referring (content.map visible), fun t => isText_of_mem_referring, ?_⟩
    simp only [next, hsplit, enclosed_endTag hn]
  · have hscript' : name = "script".toList := by
      rw [← hscript, String.toList_ofList]
    subst hscript'
    refine ⟨runs (content.map visible), fun t => isText_of_mem_runs, ?_⟩
    simp only [next, scriptLength_content hu (hc hscript) le_rfl, splitAt_eq, take_left, drop_left,
      enclosed_endTag hn, withoutMark_eq_self hr]
  · refine ⟨runs (content.map visible), fun t => isText_of_mem_runs, ?_⟩
    simp only [next, hsplit, enclosed_endTag hn]

end Content

end Lexer

end HeadAudit.Markup

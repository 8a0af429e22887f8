import HeadAudit.Proofs.Selector.Grammar

namespace HeadAudit

namespace Selector

open List

/-- Where a reader of a text stands: in a value that a quote has opened, behind an equals sign,
where a quote opens one, or elsewhere. -/
inductive Spot where
  | quoted (quote : Char)
  | ready
  | plain

instance : DecidablePred IsQuote := fun c => inferInstanceAs (Decidable (c = '"' ∨ c = '\''))

/-- The characters outside of quoted values. A quote that is never closed opens none. -/
def unquoted : Spot → List Char → List Char
  | _, [] => []
  | .quoted quote, c :: cs => unquoted (if c = quote then .plain else .quoted quote) cs
  | .ready, c :: cs =>
    if IsQuote c ∧ c ∈ cs then unquoted (.quoted c) cs
    else c :: unquoted (if c = '=' ∨ Ascii.isBlank c then .ready else .plain) cs
  | .plain, c :: cs => c :: unquoted (if c = '=' then .ready else .plain) cs

def unbracketed : Bool → List Char → List Char
  | _, [] => []
  | true, c :: cs => unbracketed (c != ']') cs
  | false, c :: cs => if c = '[' then unbracketed true cs else c :: unbracketed false cs

/-- Something in an unquoted text that selectors may be made of elsewhere: a combinator, a list, a
pseudo-class, or a comparison other than by equality. -/
inductive Beyond (cs : List Char) : Prop
  | combinator {c} (hc : c ∈ ['>', '+', '~', '|']) (h : c ∈ cs)
  | descendant {c} (hc : Text.isBlank c) (h : c ∈ unbracketed false cs)
  | list (h : ',' ∈ cs)
  | pseudoClass (h : ':' ∈ cs)
  | operator {c} (hc : c ∈ ['~', '|', '^', '$', '*']) (h : [c, '='] <:+: cs)

def isInner (c : Char) : Bool := isIdentChar c || Ascii.isBlank c || c == '='

inductive Brackets : List Char → Prop
  | nil : Brackets []
  | cons {inner rest} (hi : ∀ c ∈ inner, isInner c) (hr : Brackets rest) :
      Brackets ('[' :: inner ++ ']' :: rest)

section Unquoted

variable {cs run gap rest written value : List Char} {quote : Char}

theorem unquoted_quoted (hv : quote ∉ value) (rest : List Char) :
    unquoted (.quoted quote) (value ++ quote :: rest) = unquoted .plain rest := by
  induction value with
  | nil => rw [nil_append, unquoted, if_pos rfl]
  | cons c value ih =>
    rw [mem_cons, not_or] at hv
    rw [cons_append, unquoted, if_neg (Ne.symm hv.1), ih hv.2]

theorem unquoted_plain (hr : '=' ∉ run) (rest : List Char) :
    unquoted .plain (run ++ rest) = run ++ unquoted .plain rest := by
  induction run with
  | nil => rfl
  | cons c run ih =>
    rw [mem_cons, not_or] at hr
    rw [cons_append, unquoted, if_neg (Ne.symm hr.1), ih hr.2, cons_append]

theorem not_isQuote_of_isBlank {c : Char} (h : Ascii.isBlank c) : ¬ IsQuote c := by
  rintro (rfl | rfl) <;> exact absurd h (by decide)

theorem unquoted_gap (hg : Blanks gap) (rest : List Char) :
    unquoted .ready (gap ++ rest) = gap ++ unquoted .ready rest := by
  induction gap with
  | nil => rfl
  | cons c gap ih =>
    have hc := hg c mem_cons_self
    rw [cons_append, unquoted, if_neg fun h => not_isQuote_of_isBlank hc h.1, if_pos (.inr hc),
      ih fun d hd => hg d (mem_cons_of_mem c hd), cons_append]

theorem Ident.equals_not_mem (h : Ident run) : '=' ∉ run := fun hm => absurd (h.2 _ hm) (by decide)

theorem Blanks.equals_not_mem (h : Blanks gap) : '=' ∉ gap := fun hm => absurd (h _ hm) (by decide)

theorem Flag.isIdentChar {flag : List Char} {ignoreCase : Bool} (h : Flag flag ignoreCase) :
    ∀ c ∈ flag, isIdentChar c := by
  cases h with
  | absent => exact fun _ hc => absurd hc not_mem_nil
  | ignoring h =>
    rw [forall_mem_singleton]
    rcases h with rfl | rfl <;> rfl
  | regarding h =>
    rw [forall_mem_singleton]
    rcases h with rfl | rfl <;> rfl

/-- A value shows outside of quotes only if it is bare. -/
theorem Value.unquoted_eq (h : Value rest written value) (more : List Char) :
    ∃ shown, (∀ c ∈ shown, isIdentChar c) ∧
      unquoted .ready (written ++ more) = shown ++ unquoted .plain more := by
  cases h with
  | @quoted quote _ hq hv =>
    refine ⟨[], fun _ hc => absurd hc not_mem_nil, ?_⟩
    have hm : quote ∈ value ++ [quote] ++ more :=
      mem_append_left _ (mem_append_right _ mem_cons_self)
    rw [cons_append, cons_append, unquoted, if_pos ⟨hq, hm⟩, append_assoc, cons_append, nil_append,
      unquoted_quoted hv, nil_append]
  | bare hv hs =>
    refine ⟨written, hv.2, ?_⟩
    obtain ⟨c, cs, rfl, hc⟩ := hv.exists_cons
    have heq := hv.equals_not_mem
    rw [mem_cons, not_or] at heq
    have hready : ¬ (c = '=' ∨ Ascii.isBlank c) := by
      rw [not_isBlank_of_isIdentChar hc]
      rintro (he | he)
      · exact heq.1 he.symm
      · cases he
    rw [cons_append, unquoted, if_neg fun h => not_isQuote_of_isIdentChar hc h.1, if_neg hready,
      unquoted_plain heq.2, cons_append]

theorem isInner_of_isIdentChar {c : Char} (h : isIdentChar c) : isInner c := by
  rw [isInner, h, Bool.true_or, Bool.true_or]

theorem isInner_of_isBlank {c : Char} (h : Ascii.isBlank c) : isInner c := by
  rw [isInner, h, Bool.or_true, Bool.true_or]

theorem Comparison.unquoted_eq {value : Option String} {ignoreCase : Bool}
    (h : Comparison written value ignoreCase) (more : List Char) :
    ∃ inner, (∀ c ∈ inner, isInner c) ∧
      unquoted .plain (written ++ more) = inner ++ unquoted .plain more := by
  cases h with
  | absent => exact ⟨[], fun _ hc => absurd hc not_mem_nil, rfl⟩
  | @present gap written value gap' flag _ gap'' hg hv hg' hf hg'' =>
    obtain ⟨shown, hs, hshown⟩ := hv.unquoted_eq (gap' ++ flag ++ gap'' ++ more)
    have hbehind : '=' ∉ gap' ++ flag ++ gap'' := by
      rw [mem_append, mem_append, not_or, not_or]
      exact ⟨⟨hg'.equals_not_mem, fun hm => absurd (hf.isIdentChar _ hm) (by decide)⟩,
        hg''.equals_not_mem⟩
    refine ⟨'=' :: gap ++ shown ++ (gap' ++ flag ++ gap''), ?_, ?_⟩
    · intro c hc
      simp only [cons_append, mem_cons, mem_append] at hc
      rcases hc with rfl | (hc | hc) | (hc | hc) | hc
      · rfl
      · exact isInner_of_isBlank (hg c hc)
      · exact isInner_of_isIdentChar (hs c hc)
      · exact isInner_of_isBlank (hg' c hc)
      · exact isInner_of_isIdentChar (hf.isIdentChar c hc)
      · exact isInner_of_isBlank (hg'' c hc)
    · rw [append_assoc ('=' :: gap ++ written), append_assoc ('=' :: gap), cons_append, unquoted,
        if_pos rfl, unquoted_gap hg, hshown, unquoted_plain hbehind]
      simp only [cons_append, append_assoc]

theorem Test.unquoted_eq {test : AttributeTest} (h : Test written test) (more : List Char) :
    ∃ inner, (∀ c ∈ inner, isInner c) ∧
      unquoted .plain (written ++ more) = '[' :: inner ++ ']' :: unquoted .plain more := by
  cases h with
  | @mk gap name gap' written _ _ hg hn hg' hc =>
    obtain ⟨inner, hi, hinner⟩ := hc.unquoted_eq (']' :: more)
    have hfront : '=' ∉ gap ++ name ++ gap' := by
      rw [mem_append, mem_append, not_or, not_or]
      exact ⟨⟨hg.equals_not_mem, hn.equals_not_mem⟩, hg'.equals_not_mem⟩
    refine ⟨gap ++ name ++ gap' ++ inner, ?_, ?_⟩
    · intro c hc
      simp only [mem_append] at hc
      rcases hc with ((hc | hc) | hc) | hc
      · exact isInner_of_isBlank (hg c hc)
      · exact isInner_of_isIdentChar (hn.2 c hc)
      · exact isInner_of_isBlank (hg' c hc)
      · exact hi c hc
    · have hall : '[' :: gap ++ name ++ gap' ++ written ++ [']'] ++ more =
          '[' :: ((gap ++ name ++ gap') ++ (written ++ ']' :: more)) := by
        simp only [cons_append, append_assoc, nil_append]
      rw [hall, unquoted, if_neg (by decide), unquoted_plain hfront, hinner, unquoted,
        if_neg (by decide)]
      simp only [cons_append, append_assoc]

theorem Tests.brackets {tests : List AttributeTest} (h : Tests cs tests) :
    Brackets (unquoted .plain cs) := by
  induction h with
  | nil => exact .nil
  | @cons written _ rest _ ht _ ih =>
    obtain ⟨inner, hi, hinner⟩ := ht.unquoted_eq rest
    rw [hinner]
    exact .cons hi ih

end Unquoted

section Shape

variable {cs front body inner : List Char} {tag : Option String} {c : Char}

theorem Brackets.mem (h : Brackets body) (hc : c ∈ body) : isInner c ∨ c = '[' ∨ c = ']' := by
  induction h with
  | nil => cases hc
  | cons hi _ ih =>
    rw [cons_append, mem_cons, mem_append, mem_cons] at hc
    rcases hc with rfl | hc | rfl | hc
    · exact .inr (.inl rfl)
    · exact .inl (hi c hc)
    · exact .inr (.inr rfl)
    · exact ih hc

theorem Tag.mem (h : Tag front tag) (hc : c ∈ front) : isIdentChar c ∨ front = ['*'] ∧ c = '*' := by
  cases h with
  | star => exact .inr ⟨rfl, mem_singleton.mp hc⟩
  | named hn => exact .inl (hn.2 c hc)
  | absent => cases hc

theorem unbracketed_inner (hi : ∀ c ∈ inner, isInner c) (rest : List Char) :
    unbracketed true (inner ++ ']' :: rest) = unbracketed false rest := by
  induction inner with
  | nil => rfl
  | cons c inner ih =>
    have hc : c ≠ ']' := by
      rintro rfl
      exact absurd (hi ']' mem_cons_self) (by decide)
    rw [cons_append, unbracketed, bne_iff_ne.mpr hc, ih fun d hd => hi d (mem_cons_of_mem c hd)]

theorem Brackets.unbracketed_eq (h : Brackets body) : unbracketed false body = [] := by
  induction h with
  | nil => rfl
  | cons hi _ ih => rw [cons_append, unbracketed, if_pos rfl, unbracketed_inner hi, ih]

theorem unbracketed_append (hf : '[' ∉ front) (body : List Char) :
    unbracketed false (front ++ body) = front ++ unbracketed false body := by
  induction front with
  | nil => rfl
  | cons c front ih =>
    rw [mem_cons, not_or] at hf
    rw [cons_append, unbracketed, if_neg (Ne.symm hf.1), ih hf.2, cons_append]

theorem Tag.bracket_not_mem (h : Tag front tag) : '[' ∉ front := by
  intro hm
  rcases h.mem hm with hc | ⟨-, hc⟩
  · exact absurd hc (by decide)
  · cases hc

theorem Tag.equals_not_mem (h : Tag front tag) : '=' ∉ front := by
  intro hm
  rcases h.mem hm with hc | ⟨-, hc⟩
  · exact absurd hc (by decide)
  · cases hc

theorem toNat_of_isIdentChar (h : isIdentChar c) : '-'.toNat ≤ c.toNat ∧ c.toNat ≤ 'z'.toNat := by
  have hrange : ∀ {low high : Char}, low.toNat ≤ c.toNat ∧ c.toNat ≤ high.toNat →
      '-'.toNat ≤ low.toNat → high.toNat ≤ 'z'.toNat → '-'.toNat ≤ c.toNat ∧ c.toNat ≤ 'z'.toNat :=
    fun hc hl hh => ⟨hl.trans hc.1, hc.2.trans hh⟩
  simp only [isIdentChar, Char.isAlphanum, Char.isAlpha, Char.isUpper, Char.isLower, Char.isDigit,
    Bool.or_eq_true, Bool.and_eq_true, decide_eq_true_eq, beq_iff_eq, UInt32.le_iff_toNat_le] at h
  rcases h with (((h | h) | h) | rfl) | rfl
  · exact hrange h (by decide) (by decide)
  · exact hrange h (by decide) (by decide)
  · exact hrange h (by decide) (by decide)
  · decide
  · decide

theorem toNat_of_isBlank (h : Text.isBlank c) : c.toNat < '-'.toNat ∨ 'z'.toNat < c.toNat := by
  simp only [Text.isBlank, Bool.or_eq_true, Bool.and_eq_true, decide_eq_true_eq, beq_iff_eq,
    or_assoc] at h
  rcases h with ⟨-, h⟩ | rfl | rfl | rfl | rfl | ⟨h, -⟩ | rfl | rfl | rfl | rfl | rfl
  any_goals decide
  · exact .inl (lt_of_le_of_lt (UInt32.le_iff_toNat_le.mp h) (by decide))
  · exact .inr (lt_of_lt_of_le (by decide) (UInt32.le_iff_toNat_le.mp h))

theorem not_infix_star (ht : Tag front tag) (hb : Brackets body) :
    ¬ ['*', '='] <:+: front ++ body := by
  have hstar : '*' ∉ body := fun hm => by
    rcases hb.mem hm with hc | hc | hc
    · exact absurd hc (by decide)
    · cases hc
    · cases hc
  intro h
  have hfront : '*' ∈ front := by
    rcases mem_append.mp (h.subset mem_cons_self) with hm | hm
    · exact hm
    · exact absurd hm hstar
  obtain ⟨rfl, -⟩ : front = ['*'] ∧ _ := (ht.mem hfront).resolve_left (by decide)
  rw [cons_append, nil_append, infix_cons_iff, cons_prefix_cons] at h
  rcases h with ⟨-, h⟩ | h
  · cases hb with
    | nil => exact absurd h (by decide)
    | cons => exact absurd (cons_prefix_cons.mp h).1 (by decide)
  · exact hstar (h.subset mem_cons_self)

theorem not_beyond (ht : Tag front tag) (hb : Brackets body) : ¬ Beyond (front ++ body) := by
  have hmem : ∀ {c}, c ∈ front ++ body → isInner c ∨ c ∈ ['*', '[', ']'] := by
    intro c hc
    rcases mem_append.mp hc with hc | hc
    · rcases ht.mem hc with hc | ⟨-, rfl⟩
      · exact .inl (isInner_of_isIdentChar hc)
      · exact .inr mem_cons_self
    · exact (hb.mem hc).imp_right fun h => mem_cons_of_mem _ (by simpa using h)
  have hnone : ∀ {c}, c ∈ ['>', '+', '~', '|', ',', ':', '^', '$'] → c ∉ front ++ body := by
    intro c hc hm
    have hshape := hmem hm
    fin_cases hc <;> exact absurd hshape (by decide)
  intro h
  cases h with
  | combinator hc h => exact hnone (subset_append_left ['>', '+', '~', '|'] _ hc) h
  | descendant hc h =>
    rw [unbracketed_append ht.bracket_not_mem, hb.unbracketed_eq, append_nil] at h
    rcases ht.mem h with hi | ⟨-, rfl⟩
    · have hident := toNat_of_isIdentChar hi
      have hblank := toNat_of_isBlank hc
      omega
    · exact absurd hc (by decide)
  | list h => exact hnone (by decide) h
  | pseudoClass h => exact hnone (by decide) h
  | @operator c hc h =>
    by_cases hstar : c = '*'
    · rw [hstar] at h
      exact not_infix_star ht hb h
    · refine hnone ?_ (h.subset mem_cons_self)
      simp only [mem_cons, not_mem_nil, or_false] at hc ⊢
      tauto

theorem Pattern.not_beyond {p : Selector} (h : Pattern cs p) : ¬ Beyond (unquoted .plain cs) := by
  cases h with
  | mk ht hr =>
    rw [unquoted_plain ht.equals_not_mem]
    exact Selector.not_beyond ht hr.brackets

end Shape

/-- The parser takes exactly the patterns. What goes beyond them outside of quoted values is
refused, and is matched by no node of any tree. -/
theorem parses_iff_pattern (s : String) :
    (∀ p, parse? s = some p ↔ text s ≠ [] ∧ Pattern (text s) p) ∧
      (Beyond (unquoted .plain (text s)) →
        parse? s = none ∧ ∀ {ν : Type} (a : Adapter ν) (x : ν), a.selects x s = false) := by
  refine ⟨fun p => parse?_eq_some_iff_pattern, fun h => ?_⟩
  have hnone : parse? s = none := by
    rw [Option.eq_none_iff_forall_ne_some]
    intro p hp
    exact (parse?_eq_some_iff_pattern.mp hp).2.not_beyond h
  refine ⟨hnone, fun a x => ?_⟩
  rw [Adapter.selects, hnone]
  rfl

/-- A quoted value may hold anything, and a flag may stand right behind it. Behind the brackets a
combinator is too much. -/
theorem parses_iff_pattern_quoted :
    Pattern (text " LINK[Rel= 'a > b, c'I][href] ")
        ⟨some "link", [⟨"rel", some "a > b, c", true⟩, ⟨"href", none, false⟩]⟩ ∧
      Beyond (unquoted .plain (text "link[rel='a > b, c'I] > [href]")) ∧
      parse? "link[rel='a > b, c'I] > [href]" = none := by
  have hb : Beyond (unquoted .plain (text "link[rel='a > b, c'I] > [href]")) :=
    .combinator (c := '>') (by decide) (by decide +kernel)
  have hp : parse? " LINK[Rel= 'a > b, c'I][href] " =
      some ⟨some "link", [⟨"rel", some "a > b, c", true⟩, ⟨"href", none, false⟩]⟩ := by
    decide +kernel
  exact ⟨(((parses_iff_pattern _).1 _).mp hp).2, hb, ((parses_iff_pattern _).2 hb).1⟩

end Selector

end HeadAudit

import HeadAudit.Markup.Lexer
import HeadAudit.Proofs.Markup.Scanning

namespace HeadAudit.Markup

open List Lexer StartTag

/-- An attribute as it stands in a start tag, with the white space in front of it. Its value, if it
has one, stands between two of the same quotes. -/
structure AttrText where
  gap : List Char
  name : List Char
  value : Option (Char × List Char)
  gap_ne : gap ≠ []
  isBlank : ∀ c ∈ gap, Ascii.isBlank c = true
  name_ne : name ≠ []
  nameChar : ∀ c ∈ name, endsName c = false ∧ c ≠ '='
  unmarked : Unmarked name
  quoted : ∀ p ∈ value, (p.1 = '"' ∨ p.1 = '\'') ∧ p.1 ∉ p.2

namespace AttrText

def valueChars (a : AttrText) : List Char :=
  a.value.elim [] fun (quote, value) => '=' :: quote :: (value ++ [quote])

def chars (a : AttrText) : List Char := a.gap ++ (a.name ++ a.valueChars)

def attr (a : AttrText) : String × String :=
  (nameOf a.name, a.value.elim "" fun p => visibleText (Reference.decode .value p.2))

end AttrText

/-- A start tag as it is written, with its name in lower case and with white space behind its
attributes. -/
structure TagText where
  name : List Char
  attrs : List AttrText
  gap : List Char
  selfClosing : Bool
  plain : isPlain name = true
  isBlank : ∀ c ∈ gap, Ascii.isBlank c = true

namespace TagText

def slash (t : TagText) : List Char := if t.selfClosing then ['/'] else []

def attrChars (t : TagText) : List Char := t.attrs.flatMap AttrText.chars ++ (t.gap ++ t.slash)

def body (t : TagText) : List Char := '<' :: (t.name ++ t.attrChars)

def chars (t : TagText) : List Char := t.body ++ ['>']

def tag (t : TagText) : Tag :=
  ⟨String.ofList t.name, distinct (t.attrs.map AttrText.attr), t.selfClosing⟩

end TagText

section Lexing

variable {a : AttrText} {cs rest : List Char} {fuel : Nat}

theorem dropWhile_gap {gap : List Char} (h : ∀ c ∈ gap, Ascii.isBlank c = true) (cs : List Char) :
    (gap ++ cs).dropWhile Ascii.isBlank = cs.dropWhile Ascii.isBlank := dropWhile_append_of_pos h

theorem isBlank_of_endsName {c : Char} (h : endsName c = false) : Ascii.isBlank c = false := by
  rw [endsName, Bool.or_eq_false_iff, Bool.or_eq_false_iff] at h
  exact h.1.1

structure Follows (cs : List Char) : Prop where
  ends : ∃ c s, cs = c :: s ∧ endsName c = true
  noValue : ∀ c ∈ (cs.dropWhile Ascii.isBlank).head?, c ≠ '='

theorem span_name {name : List Char} {p : Char → Bool} (h : ∀ c ∈ name, p c = true) {c : Char}
    (hc : p c = false) (s : List Char) : (name ++ c :: s).span p = (name, c :: s) := by
  rw [span_eq_takeWhile_dropWhile, takeWhile_append_of_pos h, dropWhile_append_of_pos h,
    takeWhile_cons_of_neg (by simp [hc]), dropWhile_cons_of_neg (by simp [hc]), append_nil]

theorem value?_quoted {quote : Char} {value : List Char} (hq : quote = '"' ∨ quote = '\'')
    (hv : quote ∉ value) (cs : List Char) :
    value? (quote :: (value ++ quote :: cs)) = some (value, cs) := by
  have hspan : (value ++ quote :: cs).span (· != quote) = (value, quote :: cs) := by
    apply span_name _ (by simp)
    intro c hc
    simpa using ne_of_mem_of_not_mem hc hv
  rcases hq with rfl | rfl
  · rw [value?, dropWhile_cons_of_neg (by decide)]
    simp only [value?.quoted, hspan]
  · rw [value?, dropWhile_cons_of_neg (by decide)]
    simp only [value?.quoted, hspan]

theorem attribute?_chars (a : AttrText) (h : Follows cs) :
    ∃ rest, attribute? (a.name ++ (a.valueChars ++ cs)) = some (a.attr, rest) ∧
      rest.dropWhile Ascii.isBlank = cs.dropWhile Ascii.isBlank := by
  obtain ⟨c, s, hname⟩ := exists_cons_of_ne_nil a.name_ne
  have hs : ∀ d ∈ s, (!endsName d && d != '=') = true := by
    intro d hd
    obtain ⟨he, hne⟩ := a.nameChar d (hname ▸ mem_cons_of_mem c hd)
    simp [he, hne]
  rw [hname, cons_append, attribute?]
  cases hv : a.value with
  | some p =>
    obtain ⟨hq, hp⟩ := a.quoted p hv
    have hchars : a.valueChars ++ cs = '=' :: p.1 :: (p.2 ++ p.1 :: cs) := by
      simp [AttrText.valueChars, hv]
    have hattr : a.attr = (nameOf (c :: s), visibleText (Reference.decode .value p.2)) := by
      rw [AttrText.attr, hv, hname]
      rfl
    refine ⟨cs, ?_, rfl⟩
    rw [hchars, span_name hs (by decide), hattr]
    dsimp only
    rw [dropWhile_cons_of_neg (by decide)]
    exact congrArg (Option.map _) (value?_quoted hq hp cs)
  | none =>
    obtain ⟨d, t, rfl, hd⟩ := h.ends
    have hchars : a.valueChars ++ d :: t = d :: t := by
      rw [AttrText.valueChars, hv]
      rfl
    have hattr : a.attr = (nameOf (c :: s), "") := by
      rw [AttrText.attr, hv, hname]
      rfl
    refine ⟨(d :: t).dropWhile Ascii.isBlank, ?_, dropWhile_idempotent _ _⟩
    rw [hchars, span_name hs (by simp [hd]), hattr]
    dsimp only
    split
    · rename_i rest heq
      exact absurd rfl (h.noValue '=' (by rw [heq]; rfl))
    · rfl

theorem attributes?_congr (h : rest.dropWhile Ascii.isBlank = cs.dropWhile Ascii.isBlank)
    (fuel : Nat) : attributes? fuel rest = attributes? fuel cs := by
  cases fuel with
  | zero => rfl
  | succ fuel => rw [attributes?, attributes?, h]

theorem dropWhile_chars (a : AttrText) (cs : List Char) :
    (a.chars ++ cs).dropWhile Ascii.isBlank = a.name ++ (a.valueChars ++ cs) := by
  obtain ⟨d, t, hname⟩ := exists_cons_of_ne_nil a.name_ne
  have hd := isBlank_of_endsName (a.nameChar d (hname ▸ mem_cons_self)).1
  rw [AttrText.chars, append_assoc, append_assoc, dropWhile_gap a.isBlank, hname, cons_append,
    dropWhile_cons_of_neg (by simp [hd])]

theorem follows_attrs (attrs : List AttrText) (h : Follows cs) :
    Follows (attrs.flatMap AttrText.chars ++ cs) := by
  cases attrs with
  | nil => exact h
  | cons a attrs =>
    obtain ⟨c, s, hgap⟩ := exists_cons_of_ne_nil a.gap_ne
    obtain ⟨d, t, hname⟩ := exists_cons_of_ne_nil a.name_ne
    rw [flatMap_cons, append_assoc]
    constructor
    · refine ⟨c, _, by rw [AttrText.chars, hgap]; rfl, ?_⟩
      rw [endsName, a.isBlank c (hgap ▸ mem_cons_self)]
      rfl
    · rw [dropWhile_chars, hname]
      have hd := (a.nameChar d (hname ▸ mem_cons_self)).2
      rintro e ⟨⟩
      exact hd

theorem TagText.dropWhile_gap (t : TagText) (rest : List Char) :
    (t.gap ++ (t.slash ++ '>' :: rest)).dropWhile Ascii.isBlank = t.slash ++ '>' :: rest := by
  rw [Markup.dropWhile_gap t.isBlank, slash]
  split <;> rfl

theorem TagText.follows (t : TagText) (rest : List Char) :
    Follows (t.gap ++ (t.slash ++ '>' :: rest)) := by
  constructor
  · cases hgap : t.gap with
    | nil =>
      rw [slash]
      split
      · exact ⟨'/', '>' :: rest, rfl, by decide⟩
      · exact ⟨'>', rest, rfl, by decide⟩
    | cons c s =>
      refine ⟨c, _, rfl, ?_⟩
      rw [endsName, t.isBlank c (hgap ▸ mem_cons_self)]
      rfl
  · rw [t.dropWhile_gap, slash]
    split <;> rintro c ⟨⟩ <;> decide

theorem TagText.attributes?_gap (t : TagText) (rest : List Char) :
    attributes? (fuel + 1) (t.gap ++ (t.slash ++ '>' :: rest)) =
      some ([], t.selfClosing, rest) := by
  rw [attributes?, t.dropWhile_gap, slash]
  cases t.selfClosing <;> rfl

theorem attributes?_of_attribute? {c : Char} {s : List Char} {attr : String × String}
    (hd : cs.dropWhile Ascii.isBlank = c :: s) (hc : endsName c = false)
    (ha : attribute? (c :: s) = some (attr, rest)) (fuel : Nat) :
    attributes? (fuel + 1) cs =
      (attributes? fuel rest).map fun (attrs, selfClosing, rest) =>
        (attr :: attrs, selfClosing, rest) := by
  have hgt : c ≠ '>' := by
    rintro rfl
    exact absurd hc (by decide)
  have hslash : c ≠ '/' := by
    rintro rfl
    exact absurd hc (by decide)
  rw [attributes?, hd]
  split
  · contradiction
  · exact absurd (cons_eq_cons.mp ‹_›).1 hgt
  · exact absurd (cons_eq_cons.mp ‹_›).1 hslash
  · exact absurd (cons_eq_cons.mp ‹_›).1 hslash
  · rw [ha, Option.bind_eq_bind, Option.bind_some]
    dsimp only
    cases attributes? fuel rest <;> rfl

theorem attributes?_chars (attrs : List AttrText) (hf : Follows cs) {selfClosing : Bool}
    (hcs : ∀ fuel, attributes? (fuel + 1) cs = some ([], selfClosing, rest))
    (h : attrs.length < fuel) :
    attributes? fuel (attrs.flatMap AttrText.chars ++ cs) =
      some (attrs.map AttrText.attr, selfClosing, rest) := by
  induction attrs generalizing fuel with
  | nil =>
    cases fuel with
    | zero => contradiction
    | succ fuel => exact hcs fuel
  | cons a attrs ih =>
    cases fuel with
    | zero => contradiction
    | succ fuel =>
      obtain ⟨behind, ha, hb⟩ := attribute?_chars a (follows_attrs attrs hf)
      obtain ⟨d, t, hname⟩ := exists_cons_of_ne_nil a.name_ne
      have hd := (a.nameChar d (hname ▸ mem_cons_self)).1
      have hdrop := dropWhile_chars a (attrs.flatMap AttrText.chars ++ cs)
      rw [hname, cons_append] at ha hdrop
      rw [flatMap_cons, append_assoc, attributes?_of_attribute? hdrop hd ha,
        attributes?_congr hb, ih (Nat.lt_of_succ_lt_succ h)]
      rfl

theorem length_le_attrs (attrs : List AttrText) :
    attrs.length ≤ (attrs.flatMap AttrText.chars).length := by
  induction attrs with
  | nil => exact Nat.le_refl 0
  | cons a attrs ih =>
    have hgap := length_pos_of_ne_nil a.gap_ne
    rw [flatMap_cons, length_append, length_cons, AttrText.chars, length_append]
    omega

theorem endsName_of_isNameChar {c : Char} (h : isNameChar c = true) : endsName c = false := by
  have hne (d : Char) (hd : isNameChar d = false) : (c == d) = false := by
    rw [beq_eq_false_iff_ne]
    rintro rfl
    exact absurd h (by simp [hd])
  simp only [endsName, Ascii.isBlank, hne ' ' (by decide), hne '\t' (by decide),
    hne '\n' (by decide), hne '\x0c' (by decide), hne '\r' (by decide), hne '/' (by decide),
    hne '>' (by decide), Bool.or_false]

theorem nameOf_plain {name : List Char} (h : isPlain name = true) :
    nameOf name = String.ofList name := by
  have hv : ∀ c ∈ name, visible c.toLower = c := by
    intro c hc
    have hnull : c ≠ '\x00' := by
      rintro rfl
      exact absurd ((isName_of_isPlain h).nameChar _ hc) (by decide)
    rw [toLower_of_isPlain h c hc, visible, if_neg (by simpa using hnull)]
  rw [nameOf, map_congr_left hv, map_id']

theorem TagText.attrChars_append (t : TagText) (cs : List Char) :
    t.attrChars ++ cs = t.attrs.flatMap AttrText.chars ++ (t.gap ++ (t.slash ++ cs)) := by
  rw [attrChars, append_assoc, append_assoc]

theorem tag?_chars (t : TagText) (rest : List Char) :
    tag? (t.name ++ (t.attrChars ++ '>' :: rest)) = some (t.tag, rest) := by
  have hf := t.follows rest
  obtain ⟨⟨c, s, hc, hends⟩, -⟩ := follows_attrs t.attrs hf
  have hname : ∀ d ∈ t.name, (!endsName d) = true := by
    intro d hd
    rw [endsName_of_isNameChar ((isName_of_isPlain t.plain).nameChar d hd)]
    rfl
  have hspan : (t.name ++ (t.attrChars ++ '>' :: rest)).span (!endsName ·) =
      (t.name, t.attrChars ++ '>' :: rest) := by
    rw [t.attrChars_append, hc, span_name hname (by simp [hends])]
  have hlen := length_le_attrs t.attrs
  rw [tag?, hspan]
  dsimp only
  rw [t.attrChars_append, attributes?_chars t.attrs hf (fun fuel => t.attributes?_gap rest)
    (by rw [length_append]; omega), nameOf_plain t.plain]
  rfl

end Lexing

section Scanning

theorem unmarked_of_isBlank {gap : List Char} (h : ∀ c ∈ gap, Ascii.isBlank c = true) :
    Unmarked gap :=
  ⟨fun hm => absurd (h _ hm) (by decide), fun hm => absurd (h _ hm) (by decide),
    fun hm => absurd (h _ hm) (by decide)⟩

theorem unmarked_append {s t : List Char} (hs : Unmarked s) (ht : Unmarked t) :
    Unmarked (s ++ t) := by
  simp only [Unmarked, mem_append, not_or] at hs ht ⊢
  exact ⟨⟨hs.1, ht.1⟩, ⟨hs.2.1, ht.2.1⟩, hs.2.2, ht.2.2⟩

theorem closing?_chars (a : AttrText) (cs : List Char) :
    closing? none (a.chars ++ cs) = closing? none cs := by
  have hname := unmarked_append (unmarked_of_isBlank a.isBlank) a.unmarked
  cases hv : a.value with
  | some p =>
    obtain ⟨hq, hp⟩ := a.quoted p hv
    have heq : Unmarked ['='] := by decide
    have hsplit : a.chars ++ cs = (a.gap ++ a.name ++ ['=']) ++ p.1 :: (p.2 ++ p.1 :: cs) := by
      simp [AttrText.chars, AttrText.valueChars, hv]
    rw [hsplit, closing?_append_value (unmarked_append hname heq) hq hp]
  | none =>
    have hsplit : a.chars ++ cs = (a.gap ++ a.name) ++ cs := by
      simp [AttrText.chars, AttrText.valueChars, hv]
    rw [hsplit, closing?_append_unmarked hname]

theorem TagText.balanced (t : TagText) : Balanced t.attrChars := by
  have hslash : Unmarked t.slash := by
    rw [slash]
    split <;> decide
  constructor
  · intro cs
    have h (attrs : List AttrText) (rest : List Char) :
        closing? none (attrs.flatMap AttrText.chars ++ rest) = closing? none rest := by
      induction attrs with
      | nil => rfl
      | cons a attrs ih => rw [flatMap_cons, append_assoc, closing?_chars, ih]
    rw [t.attrChars_append, h, closing?_append_unmarked (unmarked_of_isBlank t.isBlank),
      closing?_append_unmarked hslash]
    rfl
  · intro c hc
    obtain ⟨⟨d, s, hd, hends⟩, -⟩ := follows_attrs t.attrs (t.follows [])
    cases hchars : t.attrChars with
    | nil =>
      rw [hchars] at hc
      cases hc
    | cons e s' =>
      have happend := t.attrChars_append ['>']
      rw [hd, hchars] at happend
      cases happend
      rw [hchars] at hc
      cases hc
      by_contra hname
      rw [Bool.not_eq_false] at hname
      rw [endsName_of_isNameChar hname] at hends
      cases hends

end Scanning

end HeadAudit.Markup

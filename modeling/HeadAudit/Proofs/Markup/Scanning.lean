import Mathlib
import HeadAudit.Markup.StartTag

namespace HeadAudit.Markup.StartTag

open List

variable {cs : List Char} {fuel : Nat}

section Rounds

theorem suffix?_suffix {p : List Char → Bool} {found : List Char}
    (h : suffix? p cs = some found) : found <:+ cs := by
  induction cs with
  | nil =>
    rw [suffix?] at h
    split at h <;> cases h
    exact suffix_rfl
  | cons c cs ih =>
    rw [suffix?] at h
    split at h
    · cases h
      exact suffix_rfl
    · exact (ih h).trans (suffix_cons c cs)

theorem closing?_suffix {quote : Option Char} {found : List Char}
    (h : closing? quote cs = some found) : found <:+ cs := by
  induction cs generalizing quote with
  | nil =>
    rw [closing?] at h
    cases h
  | cons c cs ih =>
    cases quote with
    | some quote =>
      rw [closing?] at h
      exact (ih h).trans (suffix_cons c cs)
    | none =>
      rw [closing?] at h
      split at h
      · cases h
        exact suffix_rfl
      · exact (ih h).trans (suffix_cons c cs)

theorem behind_suffix (pattern cs : List Char) : behind pattern cs <:+ cs := by
  rw [behind]
  cases h : suffix? pattern.isPrefixOf cs with
  | none => exact nil_suffix
  | some found => exact (drop_suffix _ found).trans (suffix?_suffix h)

theorem afterContent_suffix (name : String) (cs : List Char) : afterContent name cs <:+ cs := by
  rw [afterContent]
  split
  · cases h : suffix? (isEndOf name.toList) cs with
    | none => exact nil_suffix
    | some found => exact suffix?_suffix h
  · exact suffix_rfl

def nameAt (cs : List Char) : String := String.ofList ((cs.takeWhile isNameChar).map Char.toLower)

/-- A start tag at the front of `opening`: a letter stands behind its `<`, and `closing` begins at
the first `>` that no quotes hide. -/
structure Found.IsTag (tag : Found) : Prop where
  exists_letter : ∃ c s, tag.opening = '<' :: c :: s ∧ isLetter c = true
  name : tag.name = nameAt (tag.opening.drop 1)
  closing : closing? none ((tag.opening.drop 1).dropWhile isNameChar) = some tag.closing

theorem Found.IsTag.closing_suffix {tag : Found} (h : tag.IsTag) :
    tag.closing <:+ tag.opening.drop 1 := (closing?_suffix h.closing).trans (dropWhile_suffix _)

/-- What a round of the search does with a text: it ends there, passes over something, or takes a
start tag and passes over what that holds. -/
inductive Round (cs : List Char) : Prop where
  | stop (h : ∀ fuel, search fuel cs = [])
  | skip (rest : List Char) (hs : rest <:+ cs.drop 1) (hn : cs ≠ [])
      (h : ∀ fuel, search (fuel + 1) cs = search fuel rest)
  | take (tag : Found) (rest : List Char) (ho : tag.opening = cs) (ht : tag.IsTag)
      (hs : rest <:+ tag.closing.drop 1)
      (h : ∀ fuel, search (fuel + 1) cs = tag :: search fuel rest)

theorem not_comment {c : Char} (h : c ≠ '!') (s : List Char) :
    "!--".toList.isPrefixOf (c :: s) = false := by
  simp [isPrefixOf_cons_cons, h.symm]

theorem ne_of_isLetter {c : Char} (hc : isLetter c = true) : c ≠ '!' ∧ c ≠ '?' ∧ c ≠ '/' := by
  refine ⟨?_, ?_, ?_⟩ <;> rintro rfl <;> exact absurd hc (by decide)

theorem search_letter {c : Char} (hc : isLetter c = true) (s : List Char) (fuel : Nat) :
    search (fuel + 1) ('<' :: c :: s) =
      ((closing? none ((c :: s).dropWhile isNameChar)).map fun closing =>
        ⟨nameAt (c :: s), '<' :: c :: s, closing⟩ ::
          search fuel (afterContent (nameAt (c :: s)) (closing.drop 1))).getD [] := by
  obtain ⟨hn, hq, he⟩ := ne_of_isLetter hc
  rw [search, not_comment hn, if_neg Bool.false_ne_true, if_neg (by simp [hn, hq, he]), if_pos hc]
  cases h : closing? none ((c :: s).dropWhile isNameChar) <;> rfl

theorem round_letter {c : Char} (hc : isLetter c = true) (s : List Char) :
    Round ('<' :: c :: s) := by
  cases h : closing? none ((c :: s).dropWhile isNameChar) with
  | none =>
    refine .stop fun fuel => ?_
    cases fuel with
    | zero => rfl
    | succ fuel =>
      rw [search_letter hc, h]
      rfl
  | some closing =>
    refine .take ⟨nameAt (c :: s), '<' :: c :: s, closing⟩
      (afterContent (nameAt (c :: s)) (closing.drop 1)) rfl ⟨⟨c, s, rfl, hc⟩, rfl, h⟩
      (afterContent_suffix _ _) fun fuel => ?_
    rw [search_letter hc, h]
    rfl

theorem round_bracket (s : List Char) : Round ('<' :: s) := by
  cases s with
  | nil => exact .stop fun fuel => by cases fuel <;> rfl
  | cons c s =>
    by_cases hcomment : "!--".toList.isPrefixOf (c :: s) = true
    · refine .skip (behind "-->".toList ((c :: s).drop 3))
        ((behind_suffix _ _).trans (drop_suffix 3 _)) (cons_ne_nil _ _) fun fuel => ?_
      rw [search, if_pos hcomment]
    · by_cases hmark : (c == '!' || c == '?' || c == '/') = true
      · refine .skip (behind ['>'] (c :: s)) (behind_suffix _ _) (cons_ne_nil _ _) fun fuel => ?_
        rw [search, if_neg hcomment, if_pos hmark]
      · by_cases hl : isLetter c = true
        · exact round_letter hl s
        · refine .skip (c :: s) suffix_rfl (cons_ne_nil _ _) fun fuel => ?_
          rw [search, if_neg hcomment, if_neg hmark, if_neg hl]

theorem round (cs : List Char) : Round cs := by
  cases cs with
  | nil => exact .stop fun fuel => by cases fuel <;> rfl
  | cons c s =>
    by_cases hc : c = '<'
    · rw [hc]
      exact round_bracket s
    · refine .skip (s.dropWhile (· != '<')) (dropWhile_suffix _) (cons_ne_nil _ _) fun fuel => ?_
      rw [search]
      exact hc

/-- Every round leaves a shorter text, so more fuel than characters changes nothing. -/
theorem search_congr {m n : Nat} (hm : cs.length ≤ m) (hn : cs.length ≤ n) :
    search m cs = search n cs := by
  induction m generalizing n cs with
  | zero =>
    obtain rfl := length_eq_zero_iff.mp (Nat.le_zero.mp hm)
    cases n <;> rfl
  | succ m ih =>
    cases n with
    | zero =>
      obtain rfl := length_eq_zero_iff.mp (Nat.le_zero.mp hn)
      rfl
    | succ n =>
      cases round cs with
      | stop h => rw [h, h]
      | skip rest hs _ h =>
        have hlen := hs.length_le
        rw [length_drop] at hlen
        rw [h, h]
        exact ih (by omega) (by omega)
      | take tag rest ho ht hs h =>
        have hlen := (hs.trans ((drop_suffix 1 _).trans ht.closing_suffix)).length_le
        rw [length_drop, ho] at hlen
        rw [h, h]
        exact congrArg (tag :: ·) (ih (by omega) (by omega))

theorem isTag_of_mem_search {tag : Found} (h : tag ∈ search fuel cs) :
    tag.IsTag ∧ tag.opening <:+ cs := by
  induction fuel generalizing cs with
  | zero => cases h
  | succ fuel ih =>
    cases round cs with
    | stop hr =>
      rw [hr] at h
      cases h
    | skip rest hs _ hr =>
      rw [hr] at h
      exact (ih h).imp_right fun ht => ht.trans (hs.trans (drop_suffix 1 cs))
    | take first rest ho hf hs hr =>
      rw [hr] at h
      rcases mem_cons.mp h with rfl | h
      · exact ⟨hf, ho ▸ suffix_rfl⟩
      · refine (ih h).imp_right fun ht => ht.trans (hs.trans ?_)
        rw [← ho]
        exact (drop_suffix 1 _).trans (hf.closing_suffix.trans (drop_suffix 1 _))

def found (cs : List Char) : List Found := search cs.length cs

theorem search_eq_found (h : cs.length ≤ fuel) : search fuel cs = found cs := search_congr h le_rfl

end Rounds

theorem found_dropWhile (cs : List Char) : found (cs.dropWhile (· != '<')) = found cs := by
  cases cs with
  | nil => rfl
  | cons c s =>
    by_cases hc : c = '<'
    · subst hc
      rfl
    · have hd : (c :: s).dropWhile (· != '<') = s.dropWhile (· != '<') :=
        dropWhile_cons_of_pos (by simpa using hc)
      have hs : found (c :: s) = search s.length (s.dropWhile (· != '<')) := by
        rw [found, length_cons, search]
        simpa using hc
      rw [hd, hs, search_eq_found (dropWhile_suffix _).length_le]

theorem found_append (s cs : List Char) (h : '<' ∉ s) : found (s ++ cs) = found cs := by
  rw [← found_dropWhile (s ++ cs), dropWhile_append_of_pos, found_dropWhile]
  intro c hc
  simpa using ne_of_mem_of_not_mem hc h

theorem suffix?_append {p : List Char → Bool} {s : List Char}
    (h : ∀ t, t ≠ [] → t <:+ s → p (t ++ cs) = false) : suffix? p (s ++ cs) = suffix? p cs := by
  induction s with
  | nil => rfl
  | cons c s ih =>
    have hc : p (c :: s ++ cs) = false := h (c :: s) (cons_ne_nil c s) suffix_rfl
    rw [cons_append] at hc
    rw [cons_append, suffix?, hc]
    exact ih fun t ht hs => h t ht (hs.trans (suffix_cons c s))

theorem suffix?_self {p : List Char → Bool} (h : p cs = true) : suffix? p cs = some cs := by
  cases cs <;> rw [suffix?, if_pos h]

theorem behind_append {c : Char} {s : List Char} (h : c ∉ s) :
    behind [c] (s ++ c :: cs) = cs := by
  rw [behind, suffix?_append, suffix?_self]
  · rfl
  · simp
  · intro t ht hs
    cases t with
    | nil => contradiction
    | cons d t =>
      have hd : c ≠ d := (ne_of_mem_of_not_mem (hs.mem mem_cons_self) h).symm
      simp [isPrefixOf_cons_cons, hd]

theorem found_endTag (name cs : List Char) (h : '>' ∉ name) :
    found ('<' :: '/' :: (name ++ '>' :: cs)) = found cs := by
  have hb : behind ['>'] ('/' :: (name ++ '>' :: cs)) = cs := by
    rw [← cons_append, behind_append]
    simpa using h
  have hl : cs.length ≤ ('/' :: (name ++ '>' :: cs)).length := by
    simp
    omega
  rw [found, length_cons, search, not_comment (by decide), if_neg Bool.false_ne_true,
    if_pos (by decide), hb, search_eq_found hl]

theorem found_startTag {c : Char} {s closing : List Char} (hc : isLetter c = true)
    (h : closing? none ((c :: s).dropWhile isNameChar) = some closing) :
    found ('<' :: c :: s) =
      ⟨nameAt (c :: s), '<' :: c :: s, closing⟩ ::
        found (afterContent (nameAt (c :: s)) (closing.drop 1)) := by
  have hs : afterContent (nameAt (c :: s)) (closing.drop 1) <:+ c :: s :=
    (afterContent_suffix _ _).trans ((drop_suffix _ _).trans
      ((closing?_suffix h).trans (dropWhile_suffix _)))
  rw [found, length_cons, search_letter hc, h, Option.map_some, Option.getD_some,
    search_eq_found hs.length_le]

section Closing

def Unmarked (s : List Char) : Prop := '"' ∉ s ∧ '\'' ∉ s ∧ '>' ∉ s

instance (s : List Char) : Decidable (Unmarked s) := inferInstanceAs (Decidable (_ ∧ _ ∧ _))

theorem closing?_append_unmarked {s : List Char} (h : Unmarked s) :
    closing? none (s ++ cs) = closing? none cs := by
  induction s with
  | nil => rfl
  | cons c s ih =>
    simp only [Unmarked, mem_cons, not_or] at h
    obtain ⟨⟨hd, hds⟩, ⟨hs, hss⟩, hg, hgs⟩ := h
    rw [cons_append, closing?, if_neg (by simpa using Ne.symm hg),
      if_neg (by simp [Ne.symm hd, Ne.symm hs])]
    exact ih ⟨hds, hss, hgs⟩

theorem closing?_append_quoted {quote : Char} {s : List Char} (h : quote ∉ s) :
    closing? (some quote) (s ++ quote :: cs) = closing? none cs := by
  induction s with
  | nil => rw [nil_append, closing?, if_pos (beq_self_eq_true quote)]
  | cons c s ih =>
    obtain ⟨hc, hs⟩ := not_or.mp (mem_cons.not.mp h)
    rw [cons_append, closing?, if_neg (by simpa using Ne.symm hc)]
    exact ih hs

theorem closing?_append_value {quote : Char} {s value : List Char} (hs : Unmarked s)
    (hq : quote = '"' ∨ quote = '\'') (hv : quote ∉ value) :
    closing? none (s ++ quote :: (value ++ quote :: cs)) = closing? none cs := by
  have hopen : closing? none (quote :: (value ++ quote :: cs)) =
      closing? (some quote) (value ++ quote :: cs) := by
    rcases hq with rfl | rfl <;> rfl
  rw [closing?_append_unmarked hs, hopen, closing?_append_quoted hv]

theorem closing?_eq_some {quote : Option Char} {closing : List Char}
    (h : closing? quote cs = some closing) :
    ∃ body back, cs = body ++ '>' :: back ∧ closing = '>' :: back ∧
      ∀ t, closing? quote (body ++ '>' :: t) = some ('>' :: t) := by
  induction cs generalizing quote with
  | nil =>
    rw [closing?] at h
    cases h
  | cons c s ih =>
    cases quote with
    | some quote =>
      rw [closing?] at h
      obtain ⟨body, back, rfl, rfl, ht⟩ := ih h
      exact ⟨c :: body, back, rfl, rfl, fun t => by rw [cons_append, closing?, ht]⟩
    | none =>
      rw [closing?] at h
      split at h
      · rename_i hc
        cases h
        refine ⟨[], s, congrArg (· :: s) (beq_iff_eq.mp hc), congrArg (· :: s) (beq_iff_eq.mp hc),
          fun t => ?_⟩
        rw [nil_append, closing?, if_pos (beq_self_eq_true '>')]
      · rename_i hc
        obtain ⟨body, back, rfl, rfl, ht⟩ := ih h
        exact ⟨c :: body, back, rfl, rfl, fun t => by rw [cons_append, closing?, if_neg hc, ht]⟩

end Closing

section RawText

theorem startsWith_append_of_not_mem {c : Char} {keyword : List Char} (h : c.toLower ∉ keyword)
    (s : List Char) :
    Ascii.startsWith keyword (s ++ c :: cs) = Ascii.startsWith keyword s := by
  induction keyword generalizing s with
  | nil => cases s <;> rfl
  | cons k keyword ih =>
    obtain ⟨hk, hr⟩ := not_or.mp (mem_cons.not.mp h)
    cases s with
    | nil =>
      have hk : (k == c.toLower) = false := beq_eq_false_iff_ne.mpr (Ne.symm hk)
      simp only [nil_append, Ascii.startsWith, hk, Bool.false_and]
    | cons d s => rw [cons_append, Ascii.startsWith, Ascii.startsWith, ih hr]

def Unended (name s : List Char) : Prop := ∀ t, t <:+ s → isEndOf name t = false

instance (name s : List Char) : Decidable (Unended name s) :=
  decidable_of_iff (∀ t ∈ s.tails, isEndOf name t = false) (by simp only [mem_tails, Unended])

theorem isEndOf_append {name t : List Char} (hn : '<' ∉ name) (ht : t ≠ []) :
    isEndOf name (t ++ '<' :: cs) = isEndOf name t := by
  cases t with
  | nil => contradiction
  | cons c t =>
    have hk : Char.toLower '<' ∉ '/' :: name := by
      simpa using hn
    rw [isEndOf, isEndOf, cons_append, Ascii.startsWith, Ascii.startsWith,
      startsWith_append_of_not_mem hk]

theorem startsWith_self {keyword : List Char} (h : ∀ c ∈ keyword, c.toLower = c) :
    Ascii.startsWith keyword (keyword ++ cs) = true := by
  induction keyword with
  | nil => cases cs <;> rfl
  | cons k keyword ih =>
    rw [cons_append, Ascii.startsWith, h k mem_cons_self, beq_self_eq_true, Bool.true_and]
    exact ih fun c hc => h c (mem_cons_of_mem k hc)

theorem afterContent_of_unended {name s : List Char} (hr : String.ofList name ∈ rawTags)
    (hn : '<' ∉ name) (hl : ∀ c ∈ name, c.toLower = c) (h : Unended name s) (cs : List Char) :
    afterContent (String.ofList name) (s ++ '<' :: '/' :: (name ++ cs)) =
      '<' :: '/' :: (name ++ cs) := by
  have he : isEndOf name ('<' :: '/' :: (name ++ cs)) = true := by
    rw [isEndOf, Ascii.startsWith, Ascii.startsWith, startsWith_self hl]
    rfl
  rw [afterContent, if_pos hr, String.toList_ofList, suffix?_append, suffix?_self he,
    Option.getD_some]
  intro t ht hs
  rw [isEndOf_append hn ht]
  exact h t hs

theorem afterContent_of_not_mem {name : String} (h : name ∉ rawTags) (cs : List Char) :
    afterContent name cs = cs := if_neg h

end RawText

section Offsets

theorem width_append (s cs : List Char) : width (s ++ cs) = width s + width cs := by
  induction s with
  | nil => exact (Nat.zero_add _).symm
  | cons c s ih => rw [cons_append, width, width, ih, Nat.add_assoc]

theorem width_toList (s : String) : width s.toList = s.utf8ByteSize := by
  have h (cs : List Char) : width cs = (String.ofList cs).utf8ByteSize := by
    induction cs with
    | nil => rfl
    | cons c cs ih =>
      rw [width, ih, String.ofList_cons, String.utf8ByteSize_append, String.utf8ByteSize_singleton]
  rw [h, String.ofList_toList]

def scanFrom (pos : Nat) (cs : List Char) : List StartTag :=
  (found cs).map fun found =>
    { name := found.name
      start := pos + width cs - width found.opening
      stop := pos + width cs - width found.closing }

theorem scan_eq (source : String) : scan source = scanFrom 0 source.toList := by
  rw [scan, scanFrom, Nat.zero_add]
  rfl

/-- The start tags in a text, if it starts at a given offset. They do not depend on what follows. -/
def Scans (s : List Char) (tags : Nat → List StartTag) : Prop :=
  ∀ pos cs, scanFrom pos (s ++ cs) = tags pos ++ scanFrom (pos + width s) cs

variable {s t : List Char} {tags tags' : Nat → List StartTag}

theorem Scans.scanFrom (h : Scans s tags) (pos : Nat) : StartTag.scanFrom pos s = tags pos := by
  have hs := h pos []
  rw [append_nil] at hs
  exact hs.trans (append_nil _)

theorem Scans.append (h : Scans s tags) (h' : Scans t tags') :
    Scans (s ++ t) fun pos => tags pos ++ tags' (pos + width s) := by
  intro pos cs
  rw [append_assoc, h, h', width_append, append_assoc, Nat.add_assoc]

theorem scans_nil_of_found (h : ∀ cs, found (s ++ cs) = found cs) : Scans s fun _ => [] := by
  intro pos cs
  rw [StartTag.scanFrom, h, width_append, ← Nat.add_assoc]
  rfl

theorem scans_text (h : '<' ∉ s) : Scans s fun _ => [] :=
  scans_nil_of_found fun cs => found_append s cs h

theorem scans_endTag {name : List Char} (h : '>' ∉ name) :
    Scans ('<' :: '/' :: (name ++ ['>'])) fun _ => [] := by
  apply scans_nil_of_found
  intro cs
  rw [cons_append, cons_append, append_assoc]
  exact found_endTag name cs h

theorem scans_tag {name : String} {front back : List Char}
    (h : ∀ cs, found (front ++ '>' :: (back ++ cs)) =
      ⟨name, front ++ '>' :: (back ++ cs), '>' :: (back ++ cs)⟩ :: found cs) :
    Scans (front ++ '>' :: back) fun pos => [⟨name, pos, pos + width front⟩] := by
  intro pos cs
  have hw : pos + width (front ++ '>' :: (back ++ cs)) =
      pos + width (front ++ '>' :: back) + width cs := by
    rw [← cons_append, ← append_assoc, width_append _ cs, Nat.add_assoc]
  have hs : pos + width (front ++ '>' :: (back ++ cs)) - width ('>' :: (back ++ cs)) =
      pos + width front := by
    rw [width_append, ← Nat.add_assoc, Nat.add_sub_cancel]
  rw [append_assoc, cons_append, StartTag.scanFrom, h, map_cons, StartTag.scanFrom, ← hw,
    Nat.add_sub_cancel, hs]
  rfl

end Offsets

section Names

def isPlain : List Char → Bool
  | [] => false
  | c :: cs => c.isLower && cs.all fun c => c.isLower || c.isDigit || c == '-'

theorem isLetter_of_isLower {c : Char} (h : c.isLower = true) : isLetter c = true := by
  simp only [Char.isLower, Bool.and_eq_true, decide_eq_true_eq] at h
  simp only [isLetter, Bool.or_eq_true, Bool.and_eq_true, decide_eq_true_eq]
  exact Or.inl ⟨h.1, h.2⟩

structure IsName (name : List Char) : Prop where
  letter : ∃ c s, name = c :: s ∧ isLetter c = true
  nameChar : ∀ c ∈ name, isNameChar c = true

theorem isName_of_isPlain {name : List Char} (h : isPlain name = true) : IsName name := by
  cases name with
  | nil => cases h
  | cons c s =>
    simp only [isPlain, Bool.and_eq_true, all_eq_true, Bool.or_eq_true] at h
    refine ⟨⟨c, s, rfl, isLetter_of_isLower h.1⟩, fun d hd => ?_⟩
    rw [isNameChar, Bool.or_eq_true, Bool.or_eq_true]
    rcases mem_cons.mp hd with rfl | hd
    · exact .inl (.inl (isLetter_of_isLower h.1))
    · exact (h.2 d hd).imp_left fun h => h.imp_left isLetter_of_isLower

theorem toLower_of_isPlain {name : List Char} (h : isPlain name = true) :
    ∀ c ∈ name, c.toLower = c := by
  have hl {c : Char} (h : c.isLower = true) : ¬c.isUpper = true := by
    simp [Char.isUpper, Char.isLower, UInt32.le_iff_toNat_le] at h ⊢
    omega
  have hd {c : Char} (h : c.isDigit = true) : ¬c.isUpper = true := by
    simp [Char.isUpper, Char.isDigit, UInt32.le_iff_toNat_le] at h ⊢
    omega
  intro d hm
  apply Char.toLower_eq_of_not_isUpper
  cases name with
  | nil => cases h
  | cons c s =>
    simp only [isPlain, Bool.and_eq_true, all_eq_true, Bool.or_eq_true] at h
    rcases mem_cons.mp hm with rfl | hm
    · exact hl h.1
    · rcases h.2 d hm with (h | h) | h
      · exact hl h
      · exact hd h
      · rw [beq_iff_eq.mp h]
        decide

theorem IsName.not_mem {name : List Char} (h : IsName name) : '<' ∉ name ∧ '>' ∉ name :=
  ⟨fun hm => absurd (h.nameChar _ hm) (by decide), fun hm => absurd (h.nameChar _ hm) (by decide)⟩

end Names

section Tags

variable {c : Char} {name s content : List Char}

/-- Text between the name and the `>` of a start tag that no quote is open behind. -/
structure Balanced (s : List Char) : Prop where
  closing : ∀ cs, closing? none (s ++ '>' :: cs) = some ('>' :: cs)
  head : ∀ c ∈ s.head?, isNameChar c = false

theorem takeWhile_name (hn : IsName name) (hs : Balanced s) :
    (name ++ (s ++ '>' :: cs)).takeWhile isNameChar = name := by
  rw [takeWhile_append_of_pos hn.nameChar]
  cases s with
  | nil => exact append_nil name
  | cons c s =>
    have hc : isNameChar c = false := hs.head c rfl
    rw [cons_append, takeWhile_cons_of_neg (by simp [hc]), append_nil]

theorem dropWhile_name (hn : IsName name) (hs : Balanced s) :
    (name ++ (s ++ '>' :: cs)).dropWhile isNameChar = s ++ '>' :: cs := by
  rw [dropWhile_append_of_pos hn.nameChar]
  cases s with
  | nil => rfl
  | cons c s =>
    have hc : isNameChar c = false := hs.head c rfl
    rw [cons_append, dropWhile_cons_of_neg (by simp [hc])]

theorem closing?_tag (hn : IsName name) (hs : Balanced s) (cs : List Char) :
    closing? none ((name ++ (s ++ '>' :: cs)).dropWhile isNameChar) = some ('>' :: cs) := by
  rw [dropWhile_name hn hs, hs.closing]

theorem found_of_balanced (hn : IsName name) (hs : Balanced s) (cs : List Char) :
    found ('<' :: (name ++ s) ++ '>' :: cs) =
      ⟨String.ofList (name.map Char.toLower), '<' :: (name ++ s) ++ '>' :: cs, '>' :: cs⟩ ::
        found (afterContent (String.ofList (name.map Char.toLower)) cs) := by
  have hname : nameAt (name ++ (s ++ '>' :: cs)) = String.ofList (name.map Char.toLower) := by
    rw [nameAt, takeWhile_name hn hs]
  have hclosing := closing?_tag hn hs cs
  rw [cons_append, append_assoc]
  obtain ⟨c, name, rfl, hc⟩ := hn.letter
  rw [cons_append] at hname hclosing ⊢
  rw [found_startTag hc hclosing, hname]
  rfl

theorem found_tag (hn : isPlain name = true) (hs : Balanced s) (cs : List Char) :
    found ('<' :: (name ++ s) ++ '>' :: cs) =
      ⟨String.ofList name, '<' :: (name ++ s) ++ '>' :: cs, '>' :: cs⟩ ::
        found (afterContent (String.ofList name) cs) := by
  have h := found_of_balanced (isName_of_isPlain hn) hs cs
  rwa [map_congr_left (toLower_of_isPlain hn), map_id'] at h

theorem scans_startTag (hn : isPlain name = true) (hs : Balanced s)
    (hr : String.ofList name ∉ rawTags) :
    Scans ('<' :: (name ++ s) ++ ['>'])
      fun pos => [⟨String.ofList name, pos, pos + width ('<' :: (name ++ s))⟩] := by
  apply scans_tag
  intro cs
  rw [found_tag hn hs, afterContent_of_not_mem hr]
  rfl

theorem scans_rawElement (hn : isPlain name = true) (hs : Balanced s)
    (hr : String.ofList name ∈ rawTags) (hc : Unended name content) :
    Scans ('<' :: (name ++ s) ++ '>' :: (content ++ '<' :: '/' :: (name ++ ['>'])))
      fun pos => [⟨String.ofList name, pos, pos + width ('<' :: (name ++ s))⟩] := by
  apply scans_tag
  intro cs
  have hm := (isName_of_isPlain hn).not_mem
  have ht : content ++ '<' :: '/' :: (name ++ ['>']) ++ cs =
      content ++ '<' :: '/' :: (name ++ '>' :: cs) := by
    simp only [append_assoc, cons_append, nil_append]
  rw [ht, found_tag hn hs, afterContent_of_unended hr hm.1 (toLower_of_isPlain hn) hc,
    found_endTag name cs hm.2]

/-- What is read as a start tag is a name and balanced text between `<` and `>`. -/
theorem Found.IsTag.exists_balanced {tag : Found} (h : tag.IsTag) :
    ∃ name s back, IsName name ∧ Balanced s ∧ tag.name = String.ofList (name.map Char.toLower) ∧
      tag.opening = '<' :: (name ++ s) ++ '>' :: back ∧ tag.closing = '>' :: back := by
  obtain ⟨c, cs, ho, hc⟩ := h.exists_letter
  have hclosing := h.closing
  have hname := h.name
  rw [ho, drop_one, tail_cons] at hclosing hname
  obtain ⟨s, back, hs, hb, ht⟩ := closing?_eq_some hclosing
  refine ⟨(c :: cs).takeWhile isNameChar, s, back, ⟨⟨c, _, takeWhile_cons_of_pos ?_, hc⟩, ?_⟩,
    ⟨ht, ?_⟩, hname, ?_, hb⟩
  · rw [isNameChar, hc]
    rfl
  · exact fun d hd => mem_takeWhile_imp hd
  · intro d hd
    cases s with
    | nil => cases hd
    | cons e s =>
      cases hd
      have hhead := head?_dropWhile_not isNameChar (c :: cs)
      rw [hs] at hhead
      exact hhead
  · rw [ho, cons_append, append_assoc, ← hs, takeWhile_append_dropWhile]

end Tags

end HeadAudit.Markup.StartTag

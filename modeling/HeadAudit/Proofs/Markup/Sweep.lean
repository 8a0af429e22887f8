import HeadAudit.Proofs.Markup.Passages
import HeadAudit.Proofs.Text.Pieces

namespace HeadAudit.Markup.ByteScan

open List StartTag Utf8

variable {source : String} {s t cs rest : List Char}

section Offsets

theorem length_bytesOf (cs : List Char) : (bytesOf cs).length = width cs := by
  induction cs with
  | nil => rfl
  | cons c cs ih => rw [bytesOf_cons, length_append, String.length_utf8EncodeChar, ih, width]

theorem length_encode (source : String) : (encode source).length = width source.toList :=
  length_bytesOf _

def offsetOf (source : String) (cs : List Char) : Nat := width source.toList - width cs

theorem offsetOf_nil (source : String) : offsetOf source [] = (encode source).length := by
  rw [length_encode]
  rfl

theorem offsetOf_append (h : s ++ t <:+ source.toList) :
    offsetOf source (s ++ t) + width s = offsetOf source t := by
  obtain ⟨front, hfront⟩ := h
  rw [offsetOf, offsetOf, ← hfront, width_append, width_append]
  omega

theorem drop_offsetOf (h : cs <:+ source.toList) :
    (encode source).drop (offsetOf source cs) = bytesOf cs := by
  obtain ⟨front, hfront⟩ := h
  rw [offsetOf, encode_eq_bytesOf, ← hfront, width_append, Nat.add_sub_cancel, bytesOf_append,
    ← length_bytesOf, drop_left]

theorem tail?_offsetOf (h : cs <:+ source.toList) :
    tail? (encode source) (offsetOf source cs) = some (bytesOf cs) := by
  rw [tail?, if_pos, drop_offsetOf h]
  rw [length_encode]
  exact Nat.sub_le _ _

theorem take?_append (s t : List Char) : take? (s ++ t) (width s) = some s := by
  induction s with
  | nil => rw [width, nil_append, take?]
  | cons c s ih =>
    have hc := c.utf8Size_pos
    rw [cons_append, width, take?]
    · rw [if_pos (Nat.le_add_right _ _), Nat.add_sub_cancel_left, ih]
      rfl
    · omega

theorem slice?_offsetOf (h : s ++ t <:+ source.toList) :
    slice? source (offsetOf source (s ++ t)) (offsetOf source t) = some (String.ofList s) := by
  have hadd := offsetOf_append h
  obtain ⟨front, hfront⟩ := h
  have hstart : offsetOf source (s ++ t) = width front := by
    rw [offsetOf, ← hfront, width_append, Nat.add_sub_cancel]
  rw [slice?, if_pos (by omega), ← hadd, Nat.add_sub_cancel_left, hstart, ← hfront,
    Position.from?_append, Option.bind_some, take?_append]
  rfl

end Offsets

section Searches

/-- A test of bytes that asks of text what a test of characters asks, and asks for ASCII in
front. -/
structure Tests (p : List UInt8 → Bool) (q : List Char → Bool) : Prop where
  text : ∀ cs, p (bytesOf cs) = q cs
  nil : p [] = false
  high : ∀ b bs, 0x80 ≤ b.toNat → p (b :: bs) = false

variable {p : List UInt8 → Bool} {q : List Char → Bool} {pos : Nat}

theorem tests_isPrefixOf (pattern : String) (hne : pattern.toList ≠ [])
    (h : ∀ c ∈ pattern.toList, IsAscii c) :
    Tests (encode pattern).isPrefixOf pattern.toList.isPrefixOf := by
  obtain ⟨c, cs, hc⟩ := exists_cons_of_ne_nil hne
  have hascii : IsAscii c := h c (hc ▸ mem_cons_self)
  have hbytes : encode pattern = byteOf c :: bytesOf cs := by
    rw [encode_eq_bytesOf, hc, bytesOf_cons_ascii hascii]
  refine ⟨isPrefixOf_bytesOf h, ?_, fun b bs hb => ?_⟩
  · rw [hbytes]
    rfl
  · have hbyte := beq_false_of_ne (ne_byteOf_of_le hb hascii).symm
    rw [hbytes, isPrefixOf_cons_cons, hbyte, Bool.false_and]

theorem isAscii_of_isNameChar {c : Char} (h : isNameChar c = true) : IsAscii c := by
  simp only [isNameChar, isLetter, Char.isDigit, Bool.or_eq_true, Bool.and_eq_true,
    decide_eq_true_eq, beq_iff_eq, Char.le_def, UInt32.le_iff_toNat_le] at h
  rw [IsAscii]
  obtain ((⟨-, h⟩ | ⟨-, h⟩) | ⟨-, h⟩) | rfl := h
  · exact lt_of_le_of_lt h (by decide)
  · exact lt_of_le_of_lt h (by decide)
  · exact lt_of_le_of_lt h (by decide)
  · decide

theorem isPlain_of_mem_rawTags : ∀ name ∈ rawTags, isPlain name.toList = true := by
  decide +kernel

theorem isEndOf_eq (name cs : List Char) :
    isEndOf name cs = ("</".toList.isPrefixOf cs && Ascii.startsWith name (cs.drop 2)) := by
  have hbeq (k c : Char) (hk : k.isAlpha = false) : (k == c.toLower) = (k == c) := by
    rw [BEq.comm, Text.toLower_beq hk, BEq.comm]
  match cs with
  | [] => rfl
  | [c] => simp [isEndOf, Ascii.startsWith]
  | c :: d :: cs =>
    simp [isEndOf, Ascii.startsWith, hbeq, isPrefixOf_cons_cons, Bool.and_assoc]

theorem tests_isEndTag {name : String} (h : name ∈ rawTags) :
    Tests (isEndTag name) (isEndOf name.toList) := by
  have hopening : Tests (encode "</").isPrefixOf "</".toList.isPrefixOf :=
    tests_isPrefixOf "</" (by simp) (by simp [IsAscii])
  have hplain := isPlain_of_mem_rawTags name h
  have hword : ∀ c ∈ name.toList, IsAscii c ∧ c.toLower = c := fun c hc =>
    ⟨isAscii_of_isNameChar ((isName_of_isPlain hplain).nameChar c hc),
      toLower_of_isPlain hplain c hc⟩
  refine ⟨fun cs => ?_, rfl, fun b bs hb => ?_⟩
  · rw [isEndTag, hopening.text, isEndOf_eq]
    cases hp : "</".toList.isPrefixOf cs with
    | false => rfl
    | true =>
      obtain ⟨rest, rfl⟩ := isPrefixOf_iff_prefix.mp hp
      have hdrop : (bytesOf ("</".toList ++ rest)).drop 2 = bytesOf rest := by
        rw [bytesOf_append]
        exact drop_left' rfl
      rw [hdrop, Bool.true_and, Bool.true_and]
      exact beq_take_bytesOf hword rest
  · rw [isEndTag, hopening.high b bs hb, Bool.false_and]

theorem seek_append_high (ht : Tests p q) {high bs : List UInt8} (h : ∀ b ∈ high, 0x80 ≤ b.toNat) :
    seek p pos (high ++ bs) = seek p (pos + high.length) bs := by
  induction high generalizing pos with
  | nil => rfl
  | cons b high ih =>
    obtain ⟨hb, hhigh⟩ := forall_mem_cons.mp h
    rw [cons_append, seek, ht.high _ _ hb, if_neg Bool.false_ne_true, ih hhigh, length_cons,
      Nat.add_assoc, Nat.add_comm 1]

theorem seek_cons {c : Char} (ht : Tests p q) (h : q (c :: cs) = false) :
    seek p pos (bytesOf (c :: cs)) = seek p (pos + c.utf8Size) (bytesOf cs) := by
  have hp := (ht.text (c :: cs)).trans h
  rw [← String.length_utf8EncodeChar]
  by_cases hc : IsAscii c
  · rw [bytesOf_cons_ascii hc] at hp ⊢
    rw [seek, hp, if_neg Bool.false_ne_true, encodeChar_of_ascii hc]
    rfl
  · obtain ⟨b, bs, hb, hhigh⟩ := exists_encodeChar hc
    rw [bytesOf_cons, hb, seek_append_high ht hhigh]

/-- What is sought in the bytes is found where it is found in the text. -/
theorem seek_offsetOf (ht : Tests p q) (h : cs <:+ source.toList) :
    seek p (offsetOf source cs) (bytesOf cs) = (suffix? q cs).map (offsetOf source) := by
  induction cs with
  | nil =>
    rw [suffix?, ← ht.text, if_neg]
    · rfl
    · rw [bytesOf, flatMap_nil, ht.nil]
      exact Bool.false_ne_true
  | cons c cs ih =>
    rw [suffix?]
    split
    · next hq =>
      obtain ⟨b, bs, hb⟩ : ∃ b bs, bytesOf (c :: cs) = b :: bs := by
        obtain ⟨b, bs, hb⟩ := exists_cons_of_length_pos (length_pos c)
        exact ⟨b, bs ++ bytesOf cs, by rw [bytesOf_cons, hb, cons_append]⟩
      rw [← ht.text, hb] at hq
      rw [hb, seek, if_pos hq]
      rfl
    · next hq =>
      have hadd : offsetOf source (c :: cs) + c.utf8Size = offsetOf source cs :=
        offsetOf_append (s := [c]) h
      rw [seek_cons ht (Bool.eq_false_iff.mpr hq), hadd, ih ((suffix_cons c cs).trans h)]

theorem holds_of_suffix? {found : List Char} (h : suffix? q cs = some found) : q found = true := by
  fun_induction suffix? q cs with
  | case1 hq => cases h; exact hq
  | case2 => cases h
  | case3 c cs hq => cases h; exact hq
  | case4 c cs hq ih => exact ih h

theorem width_of_isAscii {pattern : List Char} (h : ∀ c ∈ pattern, IsAscii c) :
    width pattern = pattern.length := by
  induction pattern with
  | nil => rfl
  | cons c pattern ih =>
    obtain ⟨hc, hpattern⟩ := forall_mem_cons.mp h
    rw [width, ih hpattern, length_cons, ← String.length_utf8EncodeChar, encodeChar_of_ascii hc,
      length_singleton, Nat.add_comm]

theorem behindFound_offsetOf (pattern : List Char) (hp : ∀ c ∈ pattern, IsAscii c)
    (h : cs <:+ source.toList) :
    behindFound (encode source) pattern.length
        ((suffix? pattern.isPrefixOf cs).map (offsetOf source)) =
      offsetOf source (behind pattern cs) := by
  rw [behind]
  cases hs : suffix? pattern.isPrefixOf cs with
  | none => exact (offsetOf_nil source).symm
  | some found =>
    obtain ⟨rest, rfl⟩ := isPrefixOf_iff_prefix.mp (holds_of_suffix? hs)
    have hadd := offsetOf_append ((suffix?_suffix hs).trans h)
    rw [width_of_isAscii hp] at hadd
    rw [Option.map_some, Option.map_some, Option.getD_some, drop_left, ← hadd]
    rfl

end Searches

section Quotes

variable {quote : Option Char} {pos : Nat} {c : Char}

def openBehind (quote : Option Char) (c : Char) : Option Char :=
  match quote with
  | some q => if c = q then none else some q
  | none => if c = '"' ∨ c = '\'' then some c else none

theorem closing?_cons : closing? quote (c :: cs) =
    if quote = none ∧ c = '>' then some (c :: cs) else closing? (openBehind quote c) cs := by
  cases quote <;> simp [closing?, openBehind]

theorem toggle_map_byteOf (hq : ∀ q ∈ quote, IsAscii q) (hc : IsAscii c) :
    toggle (quote.map byteOf) (byteOf c) = (openBehind quote c).map byteOf := by
  cases quote with
  | none =>
    simp only [Option.map_none, toggle, openBehind, isQuote, Bool.or_eq_true, beq_iff_eq,
      byteOf_inj hc (d := '"') (by decide), byteOf_inj hc (d := '\'') (by decide)]
    split <;> rfl
  | some q =>
    simp only [Option.map_some, toggle, openBehind, beq_iff_eq, byteOf_inj hc (hq q rfl)]
    split <;> rfl

theorem isAscii_of_mem_openBehind (hq : ∀ q ∈ quote, IsAscii q) (hc : IsAscii c) :
    ∀ q ∈ openBehind quote c, IsAscii q := by
  intro q h
  cases quote with
  | none =>
    rw [openBehind] at h
    split at h <;> cases h
    exact hc
  | some d =>
    rw [openBehind] at h
    split at h <;> cases h
    exact hq q rfl

theorem closing?_of_not_isAscii (hq : ∀ q ∈ quote, IsAscii q) (hc : ¬IsAscii c) :
    closing? quote (c :: cs) = closing? quote cs := by
  have hne {d : Char} (hd : IsAscii d) : c ≠ d := ne_of_not_isAscii hc hd
  have hopen : openBehind quote c = quote := by
    cases quote with
    | none => rw [openBehind, if_neg (not_or.mpr ⟨hne (by decide), hne (by decide)⟩)]
    | some q => rw [openBehind, if_neg (hne (hq q rfl))]
  rw [closing?_cons, if_neg fun h => hne (by decide) h.2, hopen]

theorem tagEnd_append_high {quote : Option UInt8} {high bs : List UInt8}
    (hq : ∀ q ∈ quote, q.toNat < 0x80) (h : ∀ b ∈ high, 0x80 ≤ b.toNat) :
    tagEnd quote pos (high ++ bs) = tagEnd quote (pos + high.length) bs := by
  induction high generalizing pos with
  | nil => rfl
  | cons b high ih =>
    obtain ⟨hb, hhigh⟩ := forall_mem_cons.mp h
    have hne {d : UInt8} (hd : d.toNat < 0x80) : b ≠ d := by
      rintro rfl
      omega
    have hopen : toggle quote b = quote := by
      cases quote with
      | none => simp [toggle, isQuote, hne (d := byteOf '"') (by decide),
          hne (d := byteOf '\'') (by decide)]
      | some q => simp [toggle, hne (hq q rfl)]
    rw [cons_append, tagEnd_cons, if_neg fun h => hne (by decide) h.2, hopen, ih hhigh, length_cons,
      Nat.add_assoc, Nat.add_comm 1]

/-- The `>` that closes a tag is the same in the bytes and in the text. -/
theorem tagEnd_offsetOf (quote : Option Char) (hq : ∀ q ∈ quote, IsAscii q)
    (h : cs <:+ source.toList) :
    tagEnd (quote.map byteOf) (offsetOf source cs) (bytesOf cs) =
      (closing? quote cs).map (offsetOf source) := by
  induction cs generalizing quote with
  | nil => cases quote <;> rfl
  | cons c cs ih =>
    have hs : cs <:+ source.toList := (suffix_cons c cs).trans h
    have hadd : offsetOf source (c :: cs) + c.utf8Size = offsetOf source cs :=
      offsetOf_append (s := [c]) h
    rw [← String.length_utf8EncodeChar] at hadd
    by_cases hc : IsAscii c
    · have hend : quote.map byteOf = none ∧ byteOf c = byteOf '>' ↔ quote = none ∧ c = '>' := by
        rw [Option.map_eq_none_iff, byteOf_inj hc (by decide)]
      rw [encodeChar_of_ascii hc, length_singleton] at hadd
      rw [bytesOf_cons_ascii hc, tagEnd_cons, closing?_cons, toggle_map_byteOf hq hc, hadd,
        ih _ (isAscii_of_mem_openBehind hq hc) hs]
      simp only [hend]
      split <;> rfl
    · obtain ⟨b, bs, hb, hhigh⟩ := exists_encodeChar hc
      rw [closing?_of_not_isAscii hq hc, bytesOf_cons, hb, tagEnd_append_high _ hhigh, ← hb, hadd,
        ih quote hq hs]
      intro q hm
      obtain ⟨d, hd, rfl⟩ := Option.map_eq_some_iff.mp hm
      exact byteOf_lt (hq d hd)

end Quotes

section Rounds

def tagOf (source : String) (tag : Found) : StartTag :=
  ⟨tag.name, offsetOf source tag.opening, offsetOf source tag.closing⟩

theorem scan_eq_map (source : String) :
    scan source = (found source.toList).map (tagOf source) := rfl

inductive Agrees (source : String) (cs : List Char) : Option Passage → Prop where
  | stop (h : found cs = []) : Agrees source cs none
  | pass {p : Passage} {rest : List Char} (hs : rest <:+ cs) (hlt : rest.length < cs.length)
      (hp : p.stop = offsetOf source rest)
      (h : (found cs).map (tagOf source) = p.tag?.toList ++ (found rest).map (tagOf source)) :
      Agrees source cs (some p)

theorem Agrees.of_suffix {c : Char} {p : Passage} (hs : rest <:+ cs)
    (hp : p.stop = offsetOf source rest)
    (h : (found (c :: cs)).map (tagOf source) = p.tag?.toList ++ (found rest).map (tagOf source)) :
    Agrees source (c :: cs) (some p) :=
  .pass (hs.trans (suffix_cons c cs)) (Nat.lt_succ_of_le hs.length_le) hp h

theorem find?_offsetOf {pattern : String} (hne : pattern.toList ≠ [])
    (ha : ∀ c ∈ pattern.toList, IsAscii c) (h : cs <:+ source.toList) :
    find? (encode pattern) (encode source) (offsetOf source cs) =
      (suffix? pattern.toList.isPrefixOf cs).map (offsetOf source) := by
  rw [find?, tail?_offsetOf h, Option.bind_some, seek_offsetOf (tests_isPrefixOf pattern hne ha) h]

theorem endTag_offsetOf {name : String} (hr : name ∈ rawTags) (h : cs <:+ source.toList) :
    endTag name (encode source) (offsetOf source cs) =
      (suffix? (isEndOf name.toList) cs).map (offsetOf source) := by
  rw [endTag_eq_seek, drop_offsetOf h, seek_offsetOf (tests_isEndTag hr) h]

/-- What a start tag holds ends at the same place in the bytes and in the text. -/
theorem afterContent_offsetOf (name : String) (h : cs <:+ source.toList) :
    (if name ∈ rawTags then
      behindFound (encode source) 0 (endTag name (encode source) (offsetOf source cs))
    else offsetOf source cs) = offsetOf source (afterContent name cs) := by
  rw [afterContent]
  split
  · next hr =>
    rw [endTag_offsetOf hr h]
    cases suffix? (isEndOf name.toList) cs with
    | none => exact (offsetOf_nil source).symm
    | some found => rfl
  · rfl

theorem found_comment (rest : List Char) :
    found ('<' :: '!' :: '-' :: '-' :: rest) = found (behind "-->".toList rest) := by
  have hlen := (behind_suffix "-->".toList rest).length_le
  have hcomment : "!--".toList.isPrefixOf ('!' :: '-' :: '-' :: rest) = true := rfl
  rw [found, length_cons, search, if_pos hcomment]
  exact search_eq_found (hlen.trans (Nat.le_add_right rest.length 3))

theorem found_construct {c : Char} (hm : (c == '!' || c == '?' || c == '/') = true)
    (hc : "!--".toList.isPrefixOf (c :: rest) = false) :
    found ('<' :: c :: rest) = found (behind ['>'] (c :: rest)) := by
  rw [found, length_cons, search, hc, if_neg Bool.false_ne_true, if_pos hm]
  exact search_eq_found (behind_suffix _ _).length_le

theorem found_bracket {c : Char} (hm : (c == '!' || c == '?' || c == '/') = false)
    (hc : "!--".toList.isPrefixOf (c :: rest) = false) (hl : isLetter c = false) :
    found ('<' :: c :: rest) = found (c :: rest) := by
  rw [found, length_cons, search, hc, if_neg Bool.false_ne_true, hm, if_neg Bool.false_ne_true, hl,
    if_neg Bool.false_ne_true]
  rfl

theorem found_unclosed {c : Char} (hc : isLetter c = true)
    (h : closing? none ((c :: rest).dropWhile isNameChar) = none) :
    found ('<' :: c :: rest) = [] := by
  rw [found, length_cons, search_letter hc, h]
  rfl

theorem found_eq_suffix? (cs : List Char) :
    found cs = ((suffix? "<".toList.isPrefixOf cs).map found).getD [] := by
  induction cs with
  | nil => rfl
  | cons c cs ih =>
    rw [suffix?]
    split
    · rfl
    · next h =>
      rw [← ih]
      apply found_append [c] cs
      intro hm
      obtain rfl := mem_singleton.mp hm
      exact h rfl

theorem agrees_comment (h : '<' :: '!' :: '-' :: '-' :: rest <:+ source.toList) {start : Nat} :
    Agrees source ('<' :: '!' :: '-' :: '-' :: rest) (some ⟨.comment, start,
      behindFound (encode source) 3 (find? (encode "-->") (encode source)
        (offsetOf source ('<' :: '!' :: '-' :: '-' :: rest) + 4))⟩) := by
  have hrest : rest <:+ source.toList := (suffix_append ['<', '!', '-', '-'] rest).trans h
  have hadd : offsetOf source ('<' :: '!' :: '-' :: '-' :: rest) + 4 = offsetOf source rest :=
    offsetOf_append (s := ['<', '!', '-', '-']) h
  have hbehind : behind "-->".toList rest <:+ '!' :: '-' :: '-' :: rest :=
    (behind_suffix _ _).trans (suffix_append ['!', '-', '-'] rest)
  refine .of_suffix hbehind ?_ ?_
  · rw [hadd, find?_offsetOf (by simp) (by simp [IsAscii]) hrest]
    exact behindFound_offsetOf "-->".toList (by simp [IsAscii]) hrest
  · rw [found_comment]
    rfl

theorem agrees_construct {c : Char} (h : '<' :: c :: rest <:+ source.toList) {start : Nat}
    (hm : (c == '!' || c == '?' || c == '/') = true)
    (hc : "!--".toList.isPrefixOf (c :: rest) = false) :
    Agrees source ('<' :: c :: rest) (some ⟨.construct, start,
      behindFound (encode source) 1
        (seek (encode ">").isPrefixOf (offsetOf source ('<' :: c :: rest))
          (bytesOf ('<' :: c :: rest)))⟩) := by
  have hrest : c :: rest <:+ source.toList := (suffix_cons _ _).trans h
  have hsuffix : suffix? ">".toList.isPrefixOf ('<' :: c :: rest) =
      suffix? ">".toList.isPrefixOf (c :: rest) := if_neg Bool.false_ne_true
  refine .of_suffix (behind_suffix ['>'] (c :: rest)) ?_ ?_
  · rw [seek_offsetOf (tests_isPrefixOf ">" (by simp) (by simp [IsAscii])) h, hsuffix]
    exact behindFound_offsetOf ">".toList (by simp [IsAscii]) hrest
  · rw [found_construct hm hc]
    rfl

theorem nameBytes_offsetOf (h : cs <:+ source.toList) :
    nameBytes (encode source) (offsetOf source cs) = bytesOf (cs.takeWhile isNameChar) := by
  rw [nameBytes, drop_offsetOf h, takeWhile_bytesOf fun _ => isAscii_of_isNameChar]

theorem nameEnd_offsetOf (h : '<' :: cs <:+ source.toList) :
    nameEnd (encode source) (offsetOf source ('<' :: cs)) =
      offsetOf source (cs.dropWhile isNameChar) := by
  have hs : cs <:+ source.toList := (suffix_cons _ _).trans h
  have hopen : offsetOf source ('<' :: cs) + 1 = offsetOf source cs :=
    offsetOf_append (s := ['<']) h
  have hadd : offsetOf source (cs.takeWhile isNameChar ++ cs.dropWhile isNameChar) +
      width (cs.takeWhile isNameChar) = offsetOf source (cs.dropWhile isNameChar) := by
    apply offsetOf_append
    rwa [takeWhile_append_dropWhile]
  rw [takeWhile_append_dropWhile] at hadd
  rw [nameEnd, hopen, nameBytes_offsetOf hs, length_bytesOf, hadd]

theorem exists_agrees_element? {c : Char} (h : '<' :: c :: rest <:+ source.toList)
    (hc : isLetter c = true) :
    ∃ next, element? source (offsetOf source ('<' :: c :: rest)) = some next ∧
      Agrees source ('<' :: c :: rest) next := by
  have hs : c :: rest <:+ source.toList := (suffix_cons _ _).trans h
  have hopen : offsetOf source ('<' :: c :: rest) + 1 = offsetOf source (c :: rest) :=
    offsetOf_append (s := ['<']) h
  have hname : slice? source (offsetOf source (c :: rest))
      (offsetOf source ((c :: rest).dropWhile isNameChar)) =
      some (String.ofList ((c :: rest).takeWhile isNameChar)) := by
    have hjoin : (c :: rest).takeWhile isNameChar ++ (c :: rest).dropWhile isNameChar = c :: rest :=
      takeWhile_append_dropWhile
    have hslice := slice?_offsetOf (hjoin.symm ▸ hs)
    rwa [hjoin] at hslice
  have hlower : Ascii.lower (String.ofList ((c :: rest).takeWhile isNameChar)) =
      nameAt (c :: rest) := by
    rw [← String.toList_inj, Ascii.toList_lower, nameAt, String.toList_ofList, String.toList_ofList]
  have hback : (c :: rest).dropWhile isNameChar <:+ source.toList := (dropWhile_suffix _).trans hs
  have hclose := tagEnd_offsetOf none (fun _ h => absurd h (by simp)) hback
  rw [Option.map_none] at hclose
  refine ⟨_, by rw [element?, hopen, nameEnd_offsetOf h, hname, Option.map_some], ?_⟩
  rw [hlower, drop_offsetOf hback, hclose]
  -- The tag is never closed, or the round goes on behind what it holds.
  cases hclosing : closing? none ((c :: rest).dropWhile isNameChar) with
  | none => exact .stop (found_unclosed hc hclosing)
  | some closing =>
    have hsuffix := (closing?_suffix hclosing).trans (dropWhile_suffix _)
    obtain ⟨body, back, hbody, rfl, -⟩ := closing?_eq_some hclosing
    have hclosed : '>' :: back <:+ source.toList := hsuffix.trans hs
    have hback : back <:+ source.toList := (suffix_cons _ _).trans hclosed
    have hdrop : offsetOf source ('>' :: back) + 1 = offsetOf source back :=
      offsetOf_append (s := ['>']) hclosed
    have hbehind : afterContent (nameAt (c :: rest)) back <:+ c :: rest :=
      (afterContent_suffix _ _).trans ((suffix_cons _ _).trans hsuffix)
    refine .of_suffix hbehind ?_ ?_
    · dsimp only
      rw [hdrop]
      exact afterContent_offsetOf _ hback
    · rw [found_startTag hc hclosing]
      rfl

theorem any_isLetterByte (c : Char) (cs : List Char) :
    (bytesOf ('<' :: c :: cs))[1]?.any isLetterByte = isLetter c := by
  rw [bytesOf_cons_ascii (by decide), getElem?_cons_succ]
  by_cases hc : IsAscii c
  · rw [bytesOf_cons_ascii hc]
    exact congrArg isLetter (charOf_byteOf hc)
  · have hletter {d : Char} (h : ¬IsAscii d) : isLetter d = false := by
      rw [Bool.eq_false_iff]
      intro hl
      exact h (isAscii_of_isNameChar (by rw [isNameChar, hl]; rfl))
    obtain ⟨b, bs, hb, hhigh⟩ := exists_encodeChar hc
    have hle := hhigh b mem_cons_self
    have hhigh : ¬IsAscii (charOf b) := by
      rw [IsAscii, toNat_charOf]
      omega
    rw [bytesOf_cons, hb, hletter hc]
    exact hletter hhigh

theorem isPrefixOf_encode {pattern : String} (h : ∀ c ∈ pattern.toList, IsAscii c) :
    (encode pattern).isPrefixOf (bytesOf cs) = pattern.toList.isPrefixOf cs :=
  isPrefixOf_bytesOf h cs

theorem isConstruct_bytesOf {c : Char} :
    isConstruct (bytesOf ('<' :: c :: cs)) = (c == '!' || c == '?' || c == '/') := by
  rw [isConstruct, isPrefixOf_encode (by simp [IsAscii]), isPrefixOf_encode (by simp [IsAscii]),
    isPrefixOf_encode (by simp [IsAscii])]
  simp [isPrefixOf_cons_cons, BEq.comm]

theorem agrees_bracket {start : Nat} (h : '<' :: rest <:+ source.toList)
    (hf : found ('<' :: rest) = found rest) :
    Agrees source ('<' :: rest)
      (some ⟨.bracket, start, offsetOf source ('<' :: rest) + 1⟩) := by
  refine .of_suffix suffix_rfl (offsetOf_append (s := ['<']) h) ?_
  rw [hf]
  rfl

theorem exists_agrees_passage? (h : '<' :: rest <:+ source.toList) :
    ∃ next, passage? source (offsetOf source ('<' :: rest)) = some next ∧
      Agrees source ('<' :: rest) next := by
  rw [passage?, tail?_offsetOf h, Option.bind_some]
  have hcomment : (encode "<!--").isPrefixOf (bytesOf ('<' :: rest)) =
      "!--".toList.isPrefixOf rest := isPrefixOf_encode (by simp [IsAscii])
  rw [hcomment]
  cases rest with
  | nil => exact ⟨_, rfl, agrees_bracket h rfl⟩
  | cons c rest =>
    rw [isConstruct_bytesOf, any_isLetterByte]
    split
    · next hc =>
      obtain ⟨back, hback⟩ := isPrefixOf_iff_prefix.mp hc
      obtain ⟨rfl, rfl⟩ : c = '!' ∧ rest = '-' :: '-' :: back := by
        simpa using hback.symm
      exact ⟨_, rfl, agrees_comment h⟩
    · next hc =>
      rw [Bool.not_eq_true] at hc
      split
      · next hm => exact ⟨_, rfl, agrees_construct h hm hc⟩
      · next hm =>
        rw [Bool.not_eq_true] at hm
        split
        · next hl => exact exists_agrees_element? h hl
        · next hl =>
          rw [Bool.not_eq_true] at hl
          exact ⟨_, rfl, agrees_bracket h (found_bracket hm hc hl)⟩

theorem exists_agrees_round? (h : cs <:+ source.toList) :
    ∃ next, round? source (offsetOf source cs) = some next ∧ Agrees source cs next := by
  have hseek := seek_offsetOf (tests_isPrefixOf "<" (by simp) (by simp [IsAscii])) h
  have hfound := found_eq_suffix? cs
  rw [round?, tail?_offsetOf h, Option.bind_some, hseek]
  cases hs : suffix? "<".toList.isPrefixOf cs with
  | none =>
    rw [hs] at hfound
    exact ⟨none, rfl, .stop hfound⟩
  | some s =>
    rw [hs] at hfound
    obtain ⟨rest, rfl⟩ := isPrefixOf_iff_prefix.mp (holds_of_suffix? hs)
    have hsuffix := suffix?_suffix hs
    obtain ⟨next, hnext, ha⟩ := exists_agrees_passage? (hsuffix.trans h)
    refine ⟨next, hnext, ?_⟩
    cases ha with
    | stop hstop => exact .stop (hfound.trans hstop)
    | pass hrest hlt hp ht =>
      exact .pass (hrest.trans hsuffix) (hlt.trans_le hsuffix.length_le) hp
        ((congrArg _ hfound).trans ht)

/-- The loop ends, and takes the start tags that the scan finds. -/
theorem exists_runs (h : cs <:+ source.toList) :
    ∃ ps, Runs source (offsetOf source cs) ps ∧
      ps.filterMap Passage.tag? = (found cs).map (tagOf source) := by
  induction hn : cs.length using Nat.strongRecOn generalizing cs with
  | ind n ih =>
    obtain ⟨next, hnext, ha⟩ := exists_agrees_round? h
    cases ha with
    | stop hstop => exact ⟨[], .stop hnext, by rw [hstop]; rfl⟩
    | @pass p rest hs hlt hp ht =>
      obtain ⟨ps, hruns, htags⟩ := ih rest.length (hn ▸ hlt) (hs.trans h) rfl
      refine ⟨p :: ps, .pass hnext (hp ▸ hruns), ?_⟩
      rw [ht, ← htags]
      cases htag : p.tag? with
      | none => exact filterMap_cons_none htag
      | some tag => exact filterMap_cons_some htag

end Rounds

/-- How the loop over the bytes of a source reads start tags. It ends without a slice that fails,
and what it passes is told by the bytes. The tags are such by their bytes and in order, none starts
in a comment or another construct, and none in what an element of raw text holds. -/
structure Sweeps (source : String) (ps : List Passage) (tags : List StartTag) : Prop where
  runs : Runs source 0 ps
  unique : ∀ qs, Runs source 0 qs → qs = ps
  passed : Passed (encode source) 0 ps
  tags_eq : ps.filterMap Passage.tag? = tags
  isTag : ∀ tag ∈ tags, IsTagAt (encode source) tag
  apart : tags.Pairwise fun tag later => tag.stop < later.start
  outside : ∀ p ∈ ps, p.tag? = none → ∀ tag ∈ tags, tag.start < p.start ∨ p.stop ≤ tag.start
  content : ∀ tag ∈ tags, ∃ stop, EndsContent (encode source) tag stop ∧
    ∀ other ∈ tags, other.start ≤ tag.start ∨ stop ≤ other.start

theorem sweeps_of_runs {source : String} {ps : List Passage} (h : Runs source 0 ps) :
    Sweeps source ps (ps.filterMap Passage.tag?) where
  runs := h
  unique := fun _ h' => h'.unique h
  passed := passed_of_runs h
  tags_eq := rfl
  isTag := by
    intro tag ht
    obtain ⟨p, hp, ht⟩ := mem_filterMap.mp ht
    exact ((passed_of_runs h).passes p hp).isTagAt ht |>.1
  apart := (passed_of_runs h).pairwise_tags
  outside := by
    intro p hp hn tag ht
    have hne : p.tag? ≠ some tag := fun h => Option.some_ne_none tag (h.symm.trans hn)
    exact (passed_of_runs h).start_outside hp ht hne
  content := by
    intro tag ht
    obtain ⟨p, hp, hpt⟩ := mem_filterMap.mp ht
    obtain ⟨-, hstart, hc⟩ := ((passed_of_runs h).passes p hp).isTagAt hpt
    refine ⟨p.stop, hc, fun other ho => ?_⟩
    by_cases hsame : other = tag
    · exact .inl (hsame ▸ le_rfl)
    · have hne : p.tag? ≠ some other := fun h => hsame (Option.some.inj (h.symm.trans hpt))
      rw [← hstart]
      exact ((passed_of_runs h).start_outside hp ho hne).imp_left Nat.le_of_lt

theorem exists_sweeps (source : String) : ∃ ps, Sweeps source ps (scan source) := by
  obtain ⟨ps, hruns, htags⟩ := exists_runs (suffix_refl source.toList)
  rw [offsetOf, Nat.sub_self] at hruns
  refine ⟨ps, ?_⟩
  rw [scan_eq_map, ← htags]
  exact sweeps_of_runs hruns

end HeadAudit.Markup.ByteScan

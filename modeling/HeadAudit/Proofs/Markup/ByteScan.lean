import HeadAudit.Proofs.Markup.Positions
import HeadAudit.Proofs.Text.Bytes

namespace HeadAudit.Markup.ByteScan

open List StartTag Utf8

variable {bytes bs : List UInt8} {p : List UInt8 → Bool} {pos q start stop n : Nat} {name : String}

section Loop

def tail? (bytes : List UInt8) (pos : Nat) : Option (List UInt8) :=
  if pos ≤ bytes.length then some (bytes.drop pos) else none

def take? : List Char → Nat → Option (List Char)
  | _, 0 => some []
  | [], _ => none
  | c :: cs, n => if c.utf8Size ≤ n then (take? cs (n - c.utf8Size)).map (c :: ·) else none

def slice? (source : String) (start stop : Nat) : Option String :=
  if start ≤ stop then
    ((Position.from? source.toList start).bind (take? · (stop - start))).map String.ofList
  else none

def seek (p : List UInt8 → Bool) (pos : Nat) : List UInt8 → Option Nat
  | [] => none
  | b :: bs => if p (b :: bs) then some pos else seek p (pos + 1) bs

def find? (pattern bytes : List UInt8) (pos : Nat) : Option Nat :=
  (tail? bytes pos).bind (seek pattern.isPrefixOf pos)

def behindFound (bytes : List UInt8) (n : Nat) : Option Nat → Nat
  | some pos => pos + n
  | none => bytes.length

def isQuote (b : UInt8) : Bool := b == byteOf '"' || b == byteOf '\''

def toggle (quote : Option UInt8) (b : UInt8) : Option UInt8 :=
  match quote with
  | some q => if b == q then none else some q
  | none => if isQuote b then some b else none

/-- The first `>` that no quotes hide; the bytes start at `pos`, and `quote` is open there. -/
def tagEnd (quote : Option UInt8) (pos : Nat) : List UInt8 → Option Nat
  | [] => none
  | b :: bs =>
    if quote.isNone && b == byteOf '>' then some pos else tagEnd (toggle quote b) (pos + 1) bs

def spells (name : String) (bytes : List UInt8) : Bool :=
  (bytes.take (encode name).length).map lowerByte == (encode name).map lowerByte

theorem lt_of_seek (h : seek p pos bs = some q) : pos ≤ q ∧ q < pos + bs.length := by
  induction bs generalizing pos with
  | nil => cases h
  | cons b bs ih =>
    rw [seek] at h
    rw [length_cons]
    split at h
    · cases h
      omega
    · have hq := ih h
      omega

theorem lt_of_find? {pattern : List UInt8} (h : find? pattern bytes pos = some q) :
    pos ≤ q ∧ q < bytes.length := by
  rw [find?, tail?] at h
  split at h
  · have hq := lt_of_seek h
    rw [length_drop] at hq
    omega
  · cases h

def endTag (name : String) (bytes : List UInt8) (pos : Nat) : Option Nat :=
  match h : find? (encode "</") bytes pos with
  | none => none
  | some found =>
    if spells name (bytes.drop (found + 2)) then some found else endTag name bytes (found + 2)
termination_by bytes.length - pos
decreasing_by
  have hlt := lt_of_find? h
  omega

inductive Kind where
  | comment
  | construct
  | bracket
  | element (tag : StartTag)

structure Passage where
  kind : Kind
  start : Nat
  stop : Nat

def Passage.tag? (p : Passage) : Option StartTag :=
  match p.kind with
  | .element tag => some tag
  | _ => none

def isLetterByte (b : UInt8) : Bool := isLetter (charOf b)

def nameBytes (bytes : List UInt8) (pos : Nat) : List UInt8 :=
  (bytes.drop pos).takeWhile (isNameChar ∘ charOf)

def nameEnd (bytes : List UInt8) (start : Nat) : Nat :=
  start + 1 + (nameBytes bytes (start + 1)).length

def element? (source : String) (start : Nat) : Option (Option Passage) :=
  let bytes := encode source
  (slice? source (start + 1) (nameEnd bytes start)).map fun text =>
    let name := Ascii.lower text
    (tagEnd none (nameEnd bytes start) (bytes.drop (nameEnd bytes start))).map fun stop =>
      { kind := .element ⟨name, start, stop⟩
        start
        stop :=
          if name ∈ rawTags then behindFound bytes 0 (endTag name bytes (stop + 1)) else stop + 1 }

def isConstruct (bytes : List UInt8) : Bool :=
  (encode "<!").isPrefixOf bytes || (encode "<?").isPrefixOf bytes ||
    (encode "</").isPrefixOf bytes

def passage? (source : String) (start : Nat) : Option (Option Passage) :=
  let bytes := encode source
  (tail? bytes start).bind fun rest =>
    if (encode "<!--").isPrefixOf rest then
      some (some ⟨.comment, start, behindFound bytes 3 (find? (encode "-->") bytes (start + 4))⟩)
    else if isConstruct rest then
      some (some ⟨.construct, start,
        behindFound bytes 1 (seek (encode ">").isPrefixOf start rest)⟩)
    else if rest[1]?.any isLetterByte then element? source start
    else some (some ⟨.bracket, start, start + 1⟩)

def round? (source : String) (pos : Nat) : Option (Option Passage) :=
  (tail? (encode source) pos).bind fun rest =>
    match seek (encode "<").isPrefixOf pos rest with
    | some start => passage? source start
    | none => some none

/-- The rounds of the loop from an offset on to its end, none of which fails. -/
inductive Runs (source : String) : Nat → List Passage → Prop where
  | stop {pos : Nat} (h : round? source pos = some none) : Runs source pos []
  | pass {pos : Nat} {p : Passage} {ps : List Passage} (h : round? source pos = some (some p))
      (hs : Runs source p.stop ps) : Runs source pos (p :: ps)

theorem Runs.unique {source : String} {ps qs : List Passage} (h : Runs source pos ps)
    (h' : Runs source pos qs) : ps = qs := by
  induction h generalizing qs with
  | stop h =>
    cases h' with
    | stop => rfl
    | pass hp => exact absurd (h.symm.trans hp) (by simp)
  | pass h _ ih =>
    cases h' with
    | stop hp => exact absurd (h.symm.trans hp) (by simp)
    | pass hp hs =>
      cases h.symm.trans hp
      rw [ih hs]

end Loop

section First

structure IsFirst (P : Nat → Prop) (start pos : Nat) : Prop where
  le : start ≤ pos
  holds : P pos
  least : ∀ q, start ≤ q → q < pos → ¬P q

/-- `stop` lies `n` bytes behind the first offset from `start` on with a property, or at the end of
the bytes if no offset has it. -/
def EndsBehind (bytes : List UInt8) (P : Nat → Prop) (start n stop : Nat) : Prop :=
  (∃ pos, IsFirst P start pos ∧ stop = pos + n) ∨
    (∀ pos, start ≤ pos → ¬P pos) ∧ stop = bytes.length

theorem drop_succ_of_drop {b : UInt8} (h : bytes.drop pos = b :: bs) :
    bytes.drop (pos + 1) = bs := by
  rw [← drop_drop, h, drop_one, tail_cons]

theorem seek_of_true (h : p (bytes.drop q) = true) (hn : p [] = false) :
    seek p q (bytes.drop q) = some q := by
  cases hd : bytes.drop q with
  | nil => rw [hd, hn] at h; cases h
  | cons b bs => rw [seek, if_pos (hd ▸ h)]

theorem seek_of_false (h : p (bytes.drop pos) = false) :
    seek p pos (bytes.drop pos) = seek p (pos + 1) (bytes.drop (pos + 1)) := by
  cases hd : bytes.drop pos with
  | nil => rw [← drop_drop, hd]; rfl
  | cons b bs =>
    rw [hd] at h
    rw [drop_succ_of_drop hd, seek, if_neg (by rw [h]; exact Bool.false_ne_true)]

theorem seek_skip (hle : pos ≤ q) (h : ∀ i, pos ≤ i → i < q → p (bytes.drop i) = false) :
    seek p pos (bytes.drop pos) = seek p q (bytes.drop q) := by
  induction q, hle using Nat.le_induction with
  | base => rfl
  | succ q hle ih =>
    rw [ih fun i hi hq => h i hi (Nat.lt_succ_of_lt hq),
      seek_of_false (h q hle (Nat.lt_succ_self q))]

theorem isFirst_of_seek (h : seek p pos (bytes.drop pos) = some q) :
    IsFirst (fun i => p (bytes.drop i) = true) pos q := by
  induction hd : bytes.drop pos generalizing pos with
  | nil => rw [hd] at h; cases h
  | cons b bs ih =>
    by_cases hp : p (bytes.drop pos) = true
    · rw [hd, seek, if_pos (hd ▸ hp)] at h
      cases h
      exact ⟨le_rfl, hp, fun i hi hq => absurd hi (Nat.not_le.mpr hq)⟩
    · rw [seek_of_false (Bool.eq_false_iff.mpr hp)] at h
      have hf := ih h (drop_succ_of_drop hd)
      refine ⟨Nat.le_of_succ_le hf.le, hf.holds, fun i hi hq => ?_⟩
      rcases Nat.eq_or_lt_of_le hi with rfl | hi
      · exact hp
      · exact hf.least i hi hq

theorem not_of_seek (hn : p [] = false) (h : seek p pos (bytes.drop pos) = none) (hle : pos ≤ q) :
    ¬p (bytes.drop q) = true := by
  induction hd : bytes.drop pos generalizing pos with
  | nil =>
    obtain ⟨n, rfl⟩ := Nat.exists_eq_add_of_le hle
    rw [← drop_drop, hd, drop_nil, hn]
    exact Bool.false_ne_true
  | cons b bs ih =>
    have hp : ¬p (bytes.drop pos) = true := fun hp => by
      rw [seek_of_true hp hn] at h
      cases h
    rcases Nat.eq_or_lt_of_le hle with rfl | hlt
    · exact hp
    · rw [seek_of_false (Bool.eq_false_iff.mpr hp)] at h
      exact ih h hlt (drop_succ_of_drop hd)

theorem endsBehind_seek (hn : p [] = false) (pos n : Nat) :
    EndsBehind bytes (fun i => p (bytes.drop i) = true) pos n
      (behindFound bytes n (seek p pos (bytes.drop pos))) := by
  cases h : seek p pos (bytes.drop pos) with
  | none => exact .inr ⟨fun _ => not_of_seek hn h, rfl⟩
  | some q => exact .inl ⟨q, isFirst_of_seek h, rfl⟩

theorem EndsBehind.congr {P Q : Nat → Prop} (h : EndsBehind bytes P start n stop)
    (hPQ : ∀ i, P i ↔ Q i) : EndsBehind bytes Q start n stop := by
  have : P = Q := funext fun i => propext (hPQ i)
  exact this ▸ h

theorem EndsBehind.lt {P : Nat → Prop} (h : EndsBehind bytes P start n stop) (hs : pos < start + n)
    (hlen : pos < bytes.length) : pos < stop := by
  obtain ⟨q, hf, rfl⟩ | ⟨-, rfl⟩ := h
  · exact hs.trans_le (Nat.add_le_add_right hf.le n)
  · exact hlen

def Stands (bytes pattern : List UInt8) (pos : Nat) : Prop := pattern <+: bytes.drop pos

theorem isPrefixOf_iff_stands {pattern : List UInt8} :
    pattern.isPrefixOf (bytes.drop pos) = true ↔ Stands bytes pattern pos := isPrefixOf_iff_prefix

theorem find?_eq_seek {b : UInt8} {pattern : List UInt8} :
    find? (b :: pattern) bytes pos = seek (b :: pattern).isPrefixOf pos (bytes.drop pos) := by
  rw [find?, tail?]
  split
  · rfl
  · rw [drop_of_length_le (by omega)]
    rfl

theorem endsBehind_find? {pattern : List UInt8} {b : UInt8} (hb : pattern.head? = some b)
    (pos n : Nat) :
    EndsBehind bytes (Stands bytes pattern) pos n
      (behindFound bytes n (find? pattern bytes pos)) := by
  cases pattern with
  | nil => cases hb
  | cons b pattern =>
    rw [find?_eq_seek]
    exact (endsBehind_seek rfl pos n).congr fun _ => isPrefixOf_iff_stands

end First

section Elements

def EndTagStands (name : String) (bytes : List UInt8) (pos : Nat) : Prop :=
  Stands bytes (encode "</") pos ∧
    ∃ word, Stands bytes word (pos + 2) ∧ word.map lowerByte = (encode name).map lowerByte

def isEndTag (name : String) (bytes : List UInt8) : Bool :=
  (encode "</").isPrefixOf bytes && spells name (bytes.drop 2)

theorem spells_iff : spells name (bytes.drop pos) = true ↔
    ∃ word, Stands bytes word pos ∧ word.map lowerByte = (encode name).map lowerByte := by
  rw [spells, beq_iff_eq]
  constructor
  · exact fun h => ⟨_, take_prefix _ _, h⟩
  · rintro ⟨word, hw, h⟩
    have hlen : word.length = (encode name).length := by simpa using congrArg length h
    rw [← hlen, ← prefix_iff_eq_take.mp hw, h]

theorem isEndTag_iff : isEndTag name (bytes.drop pos) = true ↔ EndTagStands name bytes pos := by
  rw [isEndTag, Bool.and_eq_true, isPrefixOf_iff_stands, drop_drop, spells_iff, EndTagStands]

theorem isEndTag_eq_false (h : ¬(encode "</").isPrefixOf bs = true) : isEndTag name bs = false := by
  rw [isEndTag, Bool.eq_false_iff.mpr h, Bool.false_and]

/-- The loop goes on behind each `</`, where no other one can overlap it. -/
theorem endTag_eq_seek (name : String) (bytes : List UInt8) (pos : Nat) :
    endTag name bytes pos = seek (isEndTag name) pos (bytes.drop pos) := by
  have hfind (pos : Nat) : find? (encode "</") bytes pos =
      seek (encode "</").isPrefixOf pos (bytes.drop pos) := find?_eq_seek
  fun_induction endTag name bytes pos with
  | case1 pos h =>
    rw [hfind] at h
    symm
    rw [Option.eq_none_iff_forall_ne_some]
    intro q hq
    have hf := isFirst_of_seek hq
    exact not_of_seek rfl h hf.le (Bool.and_eq_true_iff.mp hf.holds).1
  | case2 pos found h hs =>
    rw [hfind] at h
    have hf := isFirst_of_seek h
    rw [seek_skip hf.le fun i hi hq => isEndTag_eq_false (hf.least i hi hq), seek_of_true _ rfl]
    rw [isEndTag, hf.holds, drop_drop, hs]
    rfl
  | case3 pos found h hs ih =>
    rw [hfind] at h
    have hf := isFirst_of_seek h
    have hskip : ∀ i, pos ≤ i → i < found + 2 → isEndTag name (bytes.drop i) = false := by
      intro i hi hq
      rcases Nat.lt_trichotomy i found with hlt | rfl | hgt
      · exact isEndTag_eq_false (hf.least i hi hlt)
      · rw [isEndTag, drop_drop, Bool.eq_false_iff.mpr hs, Bool.and_false]
      · obtain rfl : i = found + 1 := by omega
        obtain ⟨rest, hrest⟩ := isPrefixOf_iff_prefix.mp hf.holds
        rw [drop_succ_of_drop hrest.symm]
        rfl
    rw [ih, seek_skip (Nat.le_add_right_of_le hf.le) hskip]

def Unquoted (bytes : List UInt8) (start pos : Nat) : Prop :=
  bytes[pos]? = some (byteOf '>') ∧
    ((bytes.drop start).take (pos - start)).foldl toggle none = none

theorem tagEnd_cons {quote : Option UInt8} {b : UInt8} :
    tagEnd quote pos (b :: bs) =
      if quote = none ∧ b = byteOf '>' then some pos else tagEnd (toggle quote b) (pos + 1) bs := by
  cases quote <;> simp [tagEnd]

/-- What is open in front of a byte is open behind the bytes up to it. -/
theorem isFirst_of_tagEnd {quote : Option UInt8} (h : tagEnd quote pos bs = some q) :
    IsFirst (fun i => bs[i - pos]? = some (byteOf '>') ∧
      (bs.take (i - pos)).foldl toggle quote = none) pos q := by
  induction bs generalizing pos quote with
  | nil => cases h
  | cons b bs ih =>
    rw [tagEnd_cons] at h
    split at h
    · next hb =>
      cases h
      refine ⟨le_rfl, ?_, fun i hi hq => absurd hi (Nat.not_le.mpr hq)⟩
      simp [hb.1, hb.2]
    · next hb =>
      have hf := ih h
      have hshift : ∀ i, pos + 1 ≤ i → i - pos = i - (pos + 1) + 1 := fun i hi => by omega
      refine ⟨Nat.le_of_succ_le hf.le, ?_, fun i hi hq => ?_⟩
      · rw [hshift q hf.le]
        exact hf.holds
      · rcases Nat.eq_or_lt_of_le hi with rfl | hi
        · rw [Nat.sub_self]
          rintro ⟨hget, hfold⟩
          exact hb ⟨hfold, Option.some.inj hget⟩
        · rw [hshift i hi]
          exact hf.least i hi hq

theorem not_of_tagEnd {quote : Option UInt8} (h : tagEnd quote pos bs = none) (hle : pos ≤ q) :
    ¬(bs[q - pos]? = some (byteOf '>') ∧ (bs.take (q - pos)).foldl toggle quote = none) := by
  induction bs generalizing pos quote with
  | nil => simp
  | cons b bs ih =>
    rw [tagEnd_cons] at h
    split at h
    · cases h
    · next hb =>
      rcases Nat.eq_or_lt_of_le hle with rfl | hlt
      · rw [Nat.sub_self]
        rintro ⟨hget, hfold⟩
        exact hb ⟨hfold, Option.some.inj hget⟩
      · rw [show q - pos = q - (pos + 1) + 1 by omega]
        exact ih h hlt

theorem unquoted_iff (hle : start ≤ q) : Unquoted bytes start q ↔
    ((bytes.drop start)[q - start]? = some (byteOf '>') ∧
      ((bytes.drop start).take (q - start)).foldl toggle none = none) := by
  rw [Unquoted, getElem?_drop, Nat.add_sub_cancel' hle]

theorem isFirst_unquoted (h : tagEnd none start (bytes.drop start) = some q) :
    IsFirst (Unquoted bytes start) start q := by
  have hf := isFirst_of_tagEnd h
  exact ⟨hf.le, (unquoted_iff hf.le).mpr hf.holds,
    fun i hi hq hu => hf.least i hi hq ((unquoted_iff hi).mp hu)⟩

theorem not_unquoted (h : tagEnd none start (bytes.drop start) = none) (hle : start ≤ q) :
    ¬Unquoted bytes start q := fun hu => not_of_tagEnd h hle ((unquoted_iff hle).mp hu)

end Elements

end HeadAudit.Markup.ByteScan

import HeadAudit.Proofs.Markup.ByteScan

namespace HeadAudit.Markup.ByteScan

open List StartTag Utf8

variable {bytes bs : List UInt8} {pos start stop n : Nat}

section Passages

theorem bytesOf_from? {cs rest : List Char} (h : Position.from? cs n = some rest) :
    bytesOf rest = (bytesOf cs).drop n := by
  fun_induction Position.from? cs n with
  | case1 cs => cases h; rfl
  | case2 => cases h
  | case3 c cs n hn hle ih =>
    have hlen := String.length_utf8EncodeChar c
    rw [ih h, bytesOf_cons, drop_append, drop_of_length_le (hlen.trans_le hle), hlen, nil_append]
  | case4 => cases h

theorem bytesOf_take? {cs front : List Char} (h : take? cs n = some front) :
    bytesOf front = (bytesOf cs).take n := by
  fun_induction take? cs n generalizing front with
  | case1 cs => cases h; rfl
  | case2 => cases h
  | case3 c cs n hn hle ih =>
    obtain ⟨front, hf, rfl⟩ := Option.map_eq_some_iff.mp h
    have hlen := String.length_utf8EncodeChar c
    rw [bytesOf_cons, ih hf, bytesOf_cons, take_append, take_of_length_le (hlen.trans_le hle), hlen]
  | case4 => cases h

theorem encode_slice? {source text : String} (h : slice? source start stop = some text) :
    encode text = ((encode source).drop start).take (stop - start) := by
  rw [slice?] at h
  split at h
  · obtain ⟨front, hf, rfl⟩ := Option.map_eq_some_iff.mp h
    obtain ⟨rest, hr, ht⟩ := Option.bind_eq_some_iff.mp hf
    rw [encode_ofList, encode_eq_bytesOf, ← bytesOf_from? hr, ← bytesOf_take? ht]
    rfl
  · cases h

structure IsTagAt (bytes : List UInt8) (tag : StartTag) : Prop where
  start_lt_stop : tag.start < tag.stop
  opening : bytes[tag.start]? = some (byteOf '<')
  closing : bytes[tag.stop]? = some (byteOf '>')
  letter : ∃ b, bytes[tag.start + 1]? = some b ∧ isLetterByte b = true
  name : encode tag.name = (nameBytes bytes (tag.start + 1)).map lowerByte
  stop : IsFirst (Unquoted bytes (nameEnd bytes tag.start)) (nameEnd bytes tag.start) tag.stop

def EndsContent (bytes : List UInt8) (tag : StartTag) (stop : Nat) : Prop :=
  if tag.name ∈ rawTags then EndsBehind bytes (EndTagStands tag.name bytes) (tag.stop + 1) 0 stop
  else stop = tag.stop + 1

def OpensConstruct (bytes : List UInt8) (pos : Nat) : Prop :=
  Stands bytes (encode "<!") pos ∨ Stands bytes (encode "<?") pos ∨ Stands bytes (encode "</") pos

inductive Passes (bytes : List UInt8) : Passage → Prop where
  | comment {start stop : Nat} (h : Stands bytes (encode "<!--") start)
      (hs : EndsBehind bytes (Stands bytes (encode "-->")) (start + 4) 3 stop) :
      Passes bytes ⟨.comment, start, stop⟩
  | construct {start stop : Nat} (hc : ¬Stands bytes (encode "<!--") start)
      (h : OpensConstruct bytes start)
      (hs : EndsBehind bytes (Stands bytes (encode ">")) start 1 stop) :
      Passes bytes ⟨.construct, start, stop⟩
  | bracket {start : Nat} (h : Stands bytes (encode "<") start) (hc : ¬OpensConstruct bytes start)
      (hl : ∀ b, bytes[start + 1]? = some b → isLetterByte b = false) :
      Passes bytes ⟨.bracket, start, start + 1⟩
  | element {tag : StartTag} {stop : Nat} (h : IsTagAt bytes tag)
      (hs : EndsContent bytes tag stop) : Passes bytes ⟨.element tag, tag.start, stop⟩

def Ends (bytes : List UInt8) (pos : Nat) : Prop :=
  (∀ q, pos ≤ q → ¬Stands bytes (encode "<") q) ∨
    ∃ start, IsFirst (Stands bytes (encode "<")) pos start ∧
      (∃ b, bytes[start + 1]? = some b ∧ isLetterByte b = true) ∧
      ∀ q, nameEnd bytes start ≤ q → ¬Unquoted bytes (nameEnd bytes start) q

/-- All that is passed from an offset on. Each passage begins at the next `<`. -/
inductive Passed (bytes : List UInt8) : Nat → List Passage → Prop where
  | nil {pos : Nat} (h : Ends bytes pos) : Passed bytes pos []
  | cons {pos : Nat} {p : Passage} {ps : List Passage}
      (hf : IsFirst (Stands bytes (encode "<")) pos p.start) (h : Passes bytes p)
      (hs : Passed bytes p.stop ps) : Passed bytes pos (p :: ps)

theorem Stands.getElem? {b : UInt8} (h : Stands bytes (b :: bs) pos) : bytes[pos]? = some b := by
  obtain ⟨rest, hrest⟩ := h
  rw [← head?_drop, ← hrest]
  rfl

theorem encode_name {source text : String}
    (h : slice? source (start + 1) (nameEnd (encode source) start) = some text) :
    encode (Ascii.lower text) = (nameBytes (encode source) (start + 1)).map lowerByte := by
  have hname : nameBytes (encode source) (start + 1) <+: (encode source).drop (start + 1) :=
    takeWhile_prefix _
  rw [encode_eq_bytesOf, Ascii.toList_lower, bytesOf_map_toLower, ← encode_eq_bytesOf,
    encode_slice? h, nameEnd, Nat.add_sub_cancel_left, ← prefix_iff_eq_take.mp hname]

theorem endsContent (tag : StartTag) : EndsContent bytes tag
    (if tag.name ∈ rawTags then behindFound bytes 0 (endTag tag.name bytes (tag.stop + 1))
      else tag.stop + 1) := by
  rw [EndsContent]
  split
  · rw [endTag_eq_seek]
    exact (endsBehind_seek rfl _ _).congr fun _ => isEndTag_iff
  · rfl

theorem passes_of_element? {source : String} {p : Passage}
    (h : element? source start = some (some p)) (ho : Stands (encode source) (encode "<") start)
    (hl : ∃ b, (encode source)[start + 1]? = some b ∧ isLetterByte b = true) :
    Passes (encode source) p ∧ p.start = start := by
  obtain ⟨text, htext, hp⟩ := Option.map_eq_some_iff.mp h
  obtain ⟨stop, hstop, rfl⟩ := Option.map_eq_some_iff.mp hp
  have hf := isFirst_unquoted hstop
  have hlt : start < stop := lt_of_lt_of_le (by rw [nameEnd]; omega) hf.le
  exact ⟨.element ⟨hlt, ho.getElem?, hf.holds.1, hl, encode_name htext, hf⟩ (endsContent _), rfl⟩

theorem not_unquoted_of_element? {source : String} (h : element? source start = some none) :
    ∀ q, nameEnd (encode source) start ≤ q →
      ¬Unquoted (encode source) (nameEnd (encode source) start) q := by
  obtain ⟨text, htext, hp⟩ := Option.map_eq_some_iff.mp h
  exact fun q hq => not_unquoted (Option.map_eq_none_iff.mp hp) hq

theorem eq_drop_of_tail? {rest : List UInt8} (h : tail? bytes pos = some rest) :
    rest = bytes.drop pos := by
  rw [tail?] at h
  split at h <;> cases h
  rfl

theorem isConstruct_iff : isConstruct (bytes.drop pos) = true ↔ OpensConstruct bytes pos := by
  rw [isConstruct, Bool.or_eq_true, Bool.or_eq_true, isPrefixOf_iff_stands, isPrefixOf_iff_stands,
    isPrefixOf_iff_stands, or_assoc, OpensConstruct]

theorem passes_of_passage? {source : String} {p : Passage}
    (h : passage? source start = some (some p)) (ho : Stands (encode source) (encode "<") start) :
    Passes (encode source) p ∧ p.start = start := by
  obtain ⟨rest, hrest, h⟩ := Option.bind_eq_some_iff.mp h
  obtain rfl := eq_drop_of_tail? hrest
  split at h
  · next hc =>
    cases h
    exact ⟨.comment (isPrefixOf_iff_stands.mp hc) (endsBehind_find? rfl _ _), rfl⟩
  · next hc =>
    split at h
    · next hm =>
      cases h
      exact ⟨.construct (fun hs => hc (isPrefixOf_iff_stands.mpr hs)) (isConstruct_iff.mp hm)
        ((endsBehind_seek rfl _ _).congr fun _ => isPrefixOf_iff_stands), rfl⟩
    · next hm =>
      rw [getElem?_drop] at h
      split at h
      · next hl => exact passes_of_element? h ho (Option.any_eq_true _ _ |>.mp hl)
      · next hl =>
        cases h
        refine ⟨.bracket ho (fun hm' => hm (isConstruct_iff.mpr hm')) fun b hb => ?_, rfl⟩
        rw [hb, Option.any_some] at hl
        exact Bool.eq_false_iff.mpr hl

theorem unclosed_of_passage? {source : String} (h : passage? source start = some none) :
    (∃ b, (encode source)[start + 1]? = some b ∧ isLetterByte b = true) ∧
      ∀ q, nameEnd (encode source) start ≤ q →
        ¬Unquoted (encode source) (nameEnd (encode source) start) q := by
  obtain ⟨rest, hrest, h⟩ := Option.bind_eq_some_iff.mp h
  obtain rfl := eq_drop_of_tail? hrest
  rw [getElem?_drop] at h
  split at h
  · cases h
  · split at h
    · cases h
    · split at h
      · next hl => exact ⟨(Option.any_eq_true _ _).mp hl, not_unquoted_of_element? h⟩
      · cases h

theorem passed_of_round? {source : String} {p : Passage} (h : round? source pos = some (some p)) :
    IsFirst (Stands (encode source) (encode "<")) pos p.start ∧ Passes (encode source) p := by
  obtain ⟨rest, hrest, h⟩ := Option.bind_eq_some_iff.mp h
  obtain rfl := eq_drop_of_tail? hrest
  split at h
  · next start hs =>
    have hf := isFirst_of_seek hs
    have ho := isPrefixOf_iff_stands.mp hf.holds
    obtain ⟨hp, rfl⟩ := passes_of_passage? h ho
    exact ⟨⟨hf.le, ho, fun i hi hq hst => hf.least i hi hq (isPrefixOf_iff_stands.mpr hst)⟩, hp⟩
  · cases h

theorem ends_of_round? {source : String} (h : round? source pos = some none) :
    Ends (encode source) pos := by
  obtain ⟨rest, hrest, h⟩ := Option.bind_eq_some_iff.mp h
  obtain rfl := eq_drop_of_tail? hrest
  split at h
  · next start hs =>
    have hf := isFirst_of_seek hs
    refine .inr ⟨start, ⟨hf.le, isPrefixOf_iff_stands.mp hf.holds, fun i hi hq hst => ?_⟩,
      unclosed_of_passage? h⟩
    exact hf.least i hi hq (isPrefixOf_iff_stands.mpr hst)
  · next hs => exact .inl fun q hq hst => not_of_seek rfl hs hq (isPrefixOf_iff_stands.mpr hst)

/-- The rounds of the loop pass what the bytes tell. -/
theorem passed_of_runs {source : String} {ps : List Passage} (h : Runs source pos ps) :
    Passed (encode source) pos ps := by
  induction h with
  | stop h => exact .nil (ends_of_round? h)
  | pass h _ ih =>
    obtain ⟨hf, hp⟩ := passed_of_round? h
    exact .cons hf hp ih

end Passages

section Layout

variable {bytes : List UInt8} {p : Passage} {ps : List Passage} {tag : StartTag} {pos : Nat}

theorem EndsContent.lt {stop : Nat} (h : EndsContent bytes tag stop) (ht : IsTagAt bytes tag) :
    tag.stop < stop := by
  rw [EndsContent] at h
  split at h
  · exact h.lt (Nat.lt_succ_self _) (List.getElem?_eq_some_iff.mp ht.closing).1
  · exact h ▸ Nat.lt_succ_self _

theorem lt_length_of_stands {b : UInt8} {bs : List UInt8} (h : Stands bytes (b :: bs) pos) :
    pos < bytes.length := (List.getElem?_eq_some_iff.mp h.getElem?).1

theorem Passes.start_lt_stop (h : Passes bytes p) : p.start < p.stop := by
  cases h with
  | @comment start stop h hs =>
    have hlt : start < start + 4 + 3 := by omega
    exact hs.lt hlt (lt_length_of_stands h)
  | construct _ h hs =>
    refine hs.lt (Nat.lt_succ_self _) ?_
    rcases h with h | h | h <;> exact lt_length_of_stands h
  | bracket => exact Nat.lt_succ_self _
  | element h hs => exact h.start_lt_stop.trans (hs.lt h)

theorem Passes.isTagAt (h : Passes bytes p) (ht : p.tag? = some tag) :
    IsTagAt bytes tag ∧ p.start = tag.start ∧ EndsContent bytes tag p.stop := by
  cases h with
  | element h hs =>
    cases ht
    exact ⟨h, rfl, hs⟩
  | comment => cases ht
  | construct => cases ht
  | bracket => cases ht

theorem Passed.le_start (h : Passed bytes pos ps) : ∀ p ∈ ps, pos ≤ p.start := by
  induction h with
  | nil => exact fun p hp => absurd hp not_mem_nil
  | cons hf hp _ ih =>
    intro q hq
    rcases mem_cons.mp hq with rfl | hq
    · exact hf.le
    · exact (hf.le.trans hp.start_lt_stop.le).trans (ih q hq)

theorem Passed.passes (h : Passed bytes pos ps) : ∀ p ∈ ps, Passes bytes p := by
  induction h with
  | nil => exact fun p hp => absurd hp not_mem_nil
  | cons _ hp _ ih => exact forall_mem_cons.mpr ⟨hp, ih⟩

/-- No passage overlaps another one. -/
theorem Passed.pairwise (h : Passed bytes pos ps) : ps.Pairwise fun p q => p.stop ≤ q.start := by
  induction h with
  | nil => exact .nil
  | cons _ _ hs ih => exact .cons hs.le_start ih

theorem Passed.apart (h : Passed bytes pos ps) :
    ∀ p ∈ ps, ∀ q ∈ ps, p = q ∨ p.stop ≤ q.start ∨ q.stop ≤ p.start := by
  induction h with
  | nil => exact fun p hp => absurd hp not_mem_nil
  | cons _ _ hs ih =>
    intro p hmp q hmq
    rcases mem_cons.mp hmp with rfl | hp <;> rcases mem_cons.mp hmq with rfl | hq
    · exact .inl rfl
    · exact .inr (.inl (hs.le_start q hq))
    · exact .inr (.inr (hs.le_start p hp))
    · exact ih p hp q hq

theorem Passed.pairwise_tags (h : Passed bytes pos ps) :
    (ps.filterMap Passage.tag?).Pairwise fun tag later => tag.stop < later.start := by
  have hlt : ps.Pairwise fun p q => ∀ tag later, p.tag? = some tag → q.tag? = some later →
      tag.stop < later.start := by
    refine h.pairwise.imp_of_mem fun hp hq hle tag later ht hl => ?_
    obtain ⟨htag, -, hc⟩ := (h.passes _ hp).isTagAt ht
    obtain ⟨-, hstart, -⟩ := (h.passes _ hq).isTagAt hl
    exact hstart ▸ (hc.lt htag).trans_le hle
  exact hlt.filterMap _ fun p q hpq tag ht later hl => hpq tag later ht hl

/-- A start tag that is passed begins in no other passage. -/
theorem Passed.start_outside (h : Passed bytes pos ps) (hp : p ∈ ps)
    (ht : tag ∈ ps.filterMap Passage.tag?) (hne : p.tag? ≠ some tag) :
    tag.start < p.start ∨ p.stop ≤ tag.start := by
  obtain ⟨q, hq, ht⟩ := mem_filterMap.mp ht
  have hpass := h.passes q hq
  obtain ⟨-, hstart, -⟩ := hpass.isTagAt ht
  rw [← hstart]
  rcases h.apart p hp q hq with rfl | hle | hle
  · exact absurd ht hne
  · exact .inr hle
  · exact .inl (hpass.start_lt_stop.trans_le hle)

end Layout

end HeadAudit.Markup.ByteScan

import Mathlib
import HeadAudit.Text.Ascii
import HeadAudit.Text.Blank

namespace HeadAudit.Text

open List

variable {p : Char → Bool} {c : Char} {cs front back : List Char} {sep s t w : String}
  {parts ws : List String}

section Lower

theorem isBlank_of_isAlpha (h : c.isAlpha) : isBlank c = false := by
  rw [Bool.eq_false_iff]
  intro hb
  simp only [Char.isAlpha, Char.isUpper, Char.isLower, isBlank, Bool.or_eq_true, Bool.and_eq_true,
    decide_eq_true_eq, beq_iff_eq, UInt32.le_iff_toNat_le, Char.le_def, or_assoc] at h hb
  rcases hb with hb | rfl | rfl | rfl | rfl | hb | rfl | rfl | rfl | rfl | rfl
  any_goals
    revert h
    decide
  all_goals
    simp at h hb
    omega

theorem apply_toLower (h : ∀ c : Char, c.isAlpha → p c = false) (c : Char) :
    p c.toLower = p c := by
  by_cases hu : c.isUpper
  · have ha : c.isAlpha := by rw [Char.isAlpha, hu, Bool.true_or]
    have hl : c.toLower.isAlpha := by rwa [Char.isAlpha_toLower_eq_isAlpha]
    rw [h c ha, h c.toLower hl]
  · rw [Char.toLower_eq_of_not_isUpper hu]

theorem isBlank_toLower (c : Char) : isBlank c.toLower = isBlank c :=
  apply_toLower (fun _ => isBlank_of_isAlpha) c

theorem toLower_beq (hc : c.isAlpha = false) (x : Char) : (x.toLower == c) = (x == c) := by
  refine apply_toLower (p := (· == c)) (fun x hx => ?_) x
  rw [beq_eq_false_iff_ne]
  rintro rfl
  exact absurd hx (by simp [hc])

theorem mem_lower_iff (hc : c.isAlpha = false) : c ∈ (Ascii.lower s).toList ↔ c ∈ s.toList := by
  rw [Ascii.toList_lower, mem_map]
  constructor
  · rintro ⟨x, hx, he⟩
    have hb := toLower_beq hc x
    rw [he, beq_self_eq_true, eq_comm, beq_iff_eq] at hb
    exact hb ▸ hx
  · intro hm
    refine ⟨c, hm, Char.toLower_eq_of_not_isUpper fun hu => ?_⟩
    rw [Char.isAlpha, hu, Bool.true_or] at hc
    cases hc

theorem blank_lower (s : String) : blank (Ascii.lower s) = blank s := by
  rw [blank, blank, Ascii.toList_lower, all_map]
  exact congrArg s.toList.all (funext isBlank_toLower)

end Lower

section Pieces

theorem mem_of_mem_splitOnP {part : List Char} (h : part ∈ cs.splitOnP p) (hc : c ∈ part) :
    c ∈ cs ∧ p c = false := by
  induction cs generalizing part with
  | nil =>
    rw [splitOnP_nil, mem_singleton] at h
    simp [h] at hc
  | cons x cs ih =>
    rw [splitOnP_cons_eq_if_modifyHead] at h
    split at h
    · rcases mem_cons.mp h with rfl | h
      · simp at hc
      · exact (ih h hc).imp_left (mem_cons_of_mem x)
    · next hx =>
      obtain ⟨first, rest, hsplit⟩ := exists_cons_of_ne_nil (splitOnP_ne_nil p cs)
      rw [hsplit] at ih h
      rcases mem_cons.mp h with rfl | h
      · rcases mem_cons.mp hc with rfl | hc
        · exact ⟨mem_cons_self, by simpa using hx⟩
        · exact (ih mem_cons_self hc).imp_left (mem_cons_of_mem x)
      · exact (ih (mem_cons_of_mem first h) hc).imp_left (mem_cons_of_mem x)

theorem splitOnP_map {f : Char → Char} (h : ∀ c, p (f c) = p c) (cs : List Char) :
    (cs.map f).splitOnP p = (cs.splitOnP p).map (map f) := by
  induction cs with
  | nil => rfl
  | cons c cs ih =>
    rw [map_cons, splitOnP_cons_eq_if_modifyHead, splitOnP_cons_eq_if_modifyHead, ih, h]
    split
    · rfl
    · obtain ⟨first, rest, hsplit⟩ := exists_cons_of_ne_nil (splitOnP_ne_nil p cs)
      rw [hsplit]
      rfl

theorem pieces_ne_nil (c : Char) (s : String) : pieces c s ≠ [] := by
  rw [pieces, ne_eq, map_eq_nil_iff]
  exact splitOnP_ne_nil _ _

theorem not_mem_of_mem_pieces (h : s ∈ pieces c t) : c ∉ s.toList := by
  obtain ⟨part, hp, rfl⟩ := mem_map.mp h
  intro hc
  rw [String.toList_ofList] at hc
  simpa using (mem_of_mem_splitOnP hp hc).2

theorem pieces_of_not_mem (h : c ∉ s.toList) : pieces c s = [s] := by
  rw [pieces, splitOnP_eq_singleton fun x hx => ?_, map_singleton, String.ofList_toList]
  rw [beq_eq_false_iff_ne]
  rintro rfl
  exact h hx

theorem pieces_append (h : sep.toList = [c]) (s t : String) :
    pieces c (s ++ sep ++ t) = pieces c s ++ pieces c t := by
  rw [pieces, String.toList_append, String.toList_append, h, append_assoc, singleton_append,
    splitOnP_append_cons (p := (· == c)) _ _ (beq_self_eq_true c), map_append, pieces, pieces]

theorem pieces_intercalate (h : sep.toList = [c]) (hne : parts ≠ [])
    (hc : ∀ part ∈ parts, c ∉ part.toList) : pieces c (sep.intercalate parts) = parts := by
  induction parts with
  | nil => exact absurd rfl hne
  | cons part parts ih =>
    obtain ⟨hpart, hparts⟩ := forall_mem_cons.mp hc
    by_cases hn : parts = []
    · rw [hn, String.intercalate_singleton, pieces_of_not_mem hpart]
    · rw [String.intercalate_cons_of_ne_nil hn, pieces_append h, pieces_of_not_mem hpart,
        ih hn hparts, singleton_append]

theorem pieces_lower (hc : c.isAlpha = false) (s : String) :
    pieces c (Ascii.lower s) = (pieces c s).map Ascii.lower := by
  rw [pieces, Ascii.toList_lower, splitOnP_map (toLower_beq hc), pieces, map_map, map_map]
  refine map_congr_left fun part _ => ?_
  rw [← String.toList_inj]
  simp [Ascii.toList_lower]

theorem map_toList_pieces (c : Char) (s : String) :
    (pieces c s).map String.toList = s.toList.splitOnP (· == c) := by
  have hid : (String.toList ∘ String.ofList : List Char → List Char) = id := by
    funext cs
    exact String.toList_ofList
  rw [pieces, map_map, hid, map_id]

theorem intercalate_pieces (h : sep.toList = [c]) (s : String) :
    sep.intercalate (pieces c s) = s := by
  rw [← String.toList_inj, String.toList_intercalate, h, map_toList_pieces, ← splitOn_eq_splitOnP,
    intercalate_splitOn]

theorem mem_of_mem_intercalate (h : c ∈ (sep.intercalate parts).toList) :
    c ∈ sep.toList ∨ ∃ part ∈ parts, c ∈ part.toList := by
  induction parts with
  | nil => exact absurd h (by simp)
  | cons part parts ih =>
    by_cases hn : parts = []
    · rw [hn, String.intercalate_singleton] at h
      exact .inr ⟨part, mem_cons_self, h⟩
    · rw [String.intercalate_cons_of_ne_nil hn, String.toList_append, String.toList_append,
        mem_append, mem_append] at h
      rcases h with (h | h) | h
      · exact .inr ⟨part, mem_cons_self, h⟩
      · exact .inl h
      · exact (ih h).imp_right fun ⟨other, ho, hc⟩ => ⟨other, mem_cons_of_mem _ ho, hc⟩

end Pieces

section Words

def IsWord (w : String) : Prop := w ≠ "" ∧ ∀ c ∈ w.toList, isBlank c = false

theorem isWord_of_mem_words (h : w ∈ words s) : IsWord w := by
  rw [words, mem_filterMap] at h
  obtain ⟨part, hp, h⟩ := h
  split at h
  · cases h
  · next hne =>
    cases h
    refine ⟨by simpa [← String.toList_inj] using hne, fun c hc => ?_⟩
    rw [String.toList_ofList] at hc
    exact (mem_of_mem_splitOnP hp hc).2

theorem mem_of_mem_words (h : w ∈ words s) (hc : c ∈ w.toList) : c ∈ s.toList := by
  rw [words, mem_filterMap] at h
  obtain ⟨part, hp, h⟩ := h
  split at h
  · cases h
  · cases h
    rw [String.toList_ofList] at hc
    exact (mem_of_mem_splitOnP hp hc).1

theorem words_of_isWord (h : IsWord w) : words w = [w] := by
  have hne : w.toList ≠ [] := fun he => h.1 (String.toList_inj.mp he)
  rw [words, splitOnP_eq_singleton h.2]
  simp [hne]

theorem words_append (h : sep.toList = [c]) (hc : isBlank c) (s t : String) :
    words (s ++ sep ++ t) = words s ++ words t := by
  rw [words, String.toList_append, String.toList_append, h, append_assoc, singleton_append,
    splitOnP_append_cons _ _ hc, filterMap_append, words, words]

theorem words_intercalate (h : sep.toList = [c]) (hc : isBlank c) (hw : ∀ w ∈ ws, IsWord w) :
    words (sep.intercalate ws) = ws := by
  induction ws with
  | nil => rfl
  | cons w ws ih =>
    obtain ⟨hword, hwords⟩ := forall_mem_cons.mp hw
    by_cases hn : ws = []
    · rw [hn, String.intercalate_singleton, words_of_isWord hword]
    · rw [String.intercalate_cons_of_ne_nil hn, words_append h hc, words_of_isWord hword,
        ih hwords, singleton_append]

end Words

section Strip

theorem strip_eq (p : Char → Bool) (cs : List Char) : strip p cs = (cs.dropWhile p).rdropWhile p :=
  rfl

theorem strip_append (hf : ∀ c ∈ front, p c) (hb : ∀ c ∈ back, p c) (cs : List Char) :
    strip p (front ++ cs ++ back) = strip p cs := by
  rw [append_assoc, strip, dropWhile_append_of_pos hf, dropWhile_append]
  split
  · next h =>
    rw [dropWhile_eq_nil_iff.mpr hb, strip, isEmpty_iff.mp h]
  · rw [reverse_append, dropWhile_append_of_pos fun c hc => hb c (mem_reverse.mp hc), strip]

theorem strip_strip (p : Char → Bool) (cs : List Char) : strip p (strip p cs) = strip p cs := by
  have hd : (strip p cs).dropWhile p = strip p cs := by
    rw [dropWhile_eq_self_iff]
    intro hl
    have hpre : strip p cs <+: cs.dropWhile p := rdropWhile_prefix p _
    rw [hpre.getElem]
    exact dropWhile_get_zero_not p cs _
  rw [strip_eq, hd, strip_eq, rdropWhile_idempotent]

theorem mem_of_mem_strip (h : c ∈ strip p cs) : c ∈ cs := by
  have hpre : strip p cs <+: cs.dropWhile p := rdropWhile_prefix p _
  exact (dropWhile_suffix p).subset (hpre.subset h)

theorem strip_map {f : Char → Char} (h : ∀ c, p (f c) = p c) (cs : List Char) :
    strip p (cs.map f) = (strip p cs).map f := by
  have hp : p ∘ f = p := funext h
  rw [strip, dropWhile_map, hp, ← map_reverse, dropWhile_map, hp, ← map_reverse, strip]

theorem trim_append (hs : blank s) (ht : blank t) (w : String) : trim (s ++ w ++ t) = trim w := by
  rw [trim, String.toList_append, String.toList_append,
    strip_append (all_eq_true.mp hs) (all_eq_true.mp ht), trim]

theorem trim_trim (s : String) : trim (trim s) = trim s := by
  rw [trim, trim, String.toList_ofList, strip_strip]

theorem trim_lower (s : String) : trim (Ascii.lower s) = Ascii.lower (trim s) := by
  rw [← String.toList_inj, Ascii.toList_lower, trim, trim, String.toList_ofList,
    String.toList_ofList, Ascii.toList_lower, strip_map isBlank_toLower]

theorem mem_of_mem_trim (h : c ∈ (trim s).toList) : c ∈ s.toList := by
  rw [trim, String.toList_ofList] at h
  exact mem_of_mem_strip h

end Strip

end HeadAudit.Text

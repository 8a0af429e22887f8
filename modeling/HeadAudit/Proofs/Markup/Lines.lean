import HeadAudit.Markup.Position
import HeadAudit.Proofs.Markup.Scanning

namespace HeadAudit.Markup.Position

open List StartTag

variable {s lines last front back : List Char}

def dropLines : Nat → List Char → List Char
  | 0, cs => cs
  | _, [] => []
  | n + 1, c :: cs => if c == '\n' then dropLines n cs else dropLines (n + 1) cs

def textFrom (line column : Nat) (cs : List Char) : List Char :=
  (dropLines (line - 1) cs).drop (column - 1)

def EndsLine (s : List Char) : Prop := s = [] ∨ ∃ t, s = t ++ ['\n']

theorem exists_lines (s : List Char) :
    ∃ lines last, s = lines ++ last ∧ EndsLine lines ∧ '\n' ∉ last := by
  induction s using List.reverseRecOn with
  | nil => exact ⟨[], [], rfl, .inl rfl, not_mem_nil⟩
  | append_singleton s c ih =>
    obtain ⟨lines, last, rfl, hlines, hlast⟩ := ih
    by_cases hc : c = '\n'
    · refine ⟨lines ++ last ++ [c], [], (append_nil _).symm, .inr ⟨lines ++ last, ?_⟩, not_mem_nil⟩
      rw [hc]
    · refine ⟨lines, last ++ [c], append_assoc _ _ _, hlines, ?_⟩
      simp [hlast, Ne.symm hc]

section Breaks

theorem breaks_append (pos : Nat) (s t : List Char) :
    breaks pos (s ++ t) = breaks pos s ++ breaks (pos + width s) t := by
  induction s generalizing pos with
  | nil => rfl
  | cons c s ih =>
    simp only [cons_append, breaks, width, ih, Nat.add_assoc]
    split <;> rfl

theorem breaks_eq_nil (pos : Nat) (h : '\n' ∉ s) : breaks pos s = [] := by
  induction s generalizing pos with
  | nil => rfl
  | cons c s ih =>
    obtain ⟨hc, hs⟩ := not_or.mp (mem_cons.not.mp h)
    rw [breaks, if_neg (by simpa using Ne.symm hc)]
    exact ih _ hs

theorem lt_of_mem_breaks {pos offset : Nat} (h : offset ∈ breaks pos s) :
    pos < offset ∧ offset ≤ pos + width s := by
  induction s generalizing pos with
  | nil => cases h
  | cons c s ih =>
    have hc := c.utf8Size_pos
    have hs (h : offset ∈ breaks (pos + c.utf8Size) s) :
        pos < offset ∧ offset ≤ pos + width (c :: s) := by
      obtain ⟨hl, hr⟩ := ih h
      rw [width]
      omega
    rw [breaks] at h
    split at h
    · rcases mem_cons.mp h with rfl | h
      · rw [width]
        omega
      · exact hs h
    · exact hs h

theorem length_breaks (pos : Nat) (s : List Char) : (breaks pos s).length = s.count '\n' := by
  induction s generalizing pos with
  | nil => rfl
  | cons c s ih =>
    rw [breaks, count_cons]
    split
    · rw [length_cons, ih]
    · rw [ih, Nat.add_zero]

theorem getLastD_breaks (h : EndsLine lines) : (0 :: breaks 0 lines).getLastD 0 = width lines := by
  rcases h with rfl | ⟨s, rfl⟩
  · rfl
  · have hb : breaks (0 + width s) ['\n'] = [width (s ++ ['\n'])] := by
      rw [Nat.zero_add, width_append]
      rfl
    rw [breaks_append, hb, ← cons_append, getLastD_concat]

end Breaks

theorem from?_append (s t : List Char) : from? (s ++ t) (width s) = some t := by
  induction s with
  | nil => rw [width, nil_append, from?]
  | cons c s ih =>
    have hc := c.utf8Size_pos
    rw [cons_append, width, from?]
    · rw [if_pos (Nat.le_add_right _ _), Nat.add_sub_cancel_left, ih]
    · omega

theorem charCount?_append (s t : List Char) : charCount? (s ++ t) (width s) = some s.length := by
  induction s with
  | nil =>
    rw [width, nil_append, charCount?]
    rfl
  | cons c s ih =>
    have hc := c.utf8Size_pos
    rw [cons_append, width, charCount?]
    · rw [if_pos (Nat.le_add_right _ _), Nat.add_sub_cancel_left, ih]
      rfl
    · omega

theorem of_append {source : String} (h : source.toList = lines ++ last ++ back)
    (hl : EndsLine lines) (hn : '\n' ∉ last) :
    Position.of source (width (lines ++ last)) = (lines.count '\n' + 1, last.length + 1) := by
  have hbehind : (breaks (0 + width (lines ++ last)) back).takeWhile
      (· ≤ width (lines ++ last)) = [] := by
    rw [takeWhile_eq_nil_iff]
    intro hlen
    have hlt := (lt_of_mem_breaks (get_mem _ ⟨0, hlen⟩)).1
    simpa using hlt
  have hbefore : (lineStarts source).takeWhile (· ≤ width (lines ++ last)) =
      0 :: breaks 0 lines := by
    rw [lineStarts, h, breaks_append, breaks_append, breaks_eq_nil _ hn, append_nil,
      ← cons_append, takeWhile_append_of_pos, hbehind, append_nil]
    intro offset hm
    rw [decide_eq_true_eq, width_append]
    rcases mem_cons.mp hm with rfl | hm
    · exact Nat.zero_le _
    · have hle := (lt_of_mem_breaks hm).2
      omega
  rw [Position.of, hbefore, getLastD_breaks hl, h, append_assoc, from?_append, Option.bind_some,
    width_append, Nat.add_sub_cancel_left, charCount?_append, Option.getD_some, length_cons,
    length_breaks]

def lineColumn (front : List Char) : Nat × Nat :=
  (front.count '\n' + 1, (front.reverse.takeWhile (· ≠ '\n')).length + 1)

theorem of_width {source : String} (h : source.toList = front ++ back) :
    Position.of source (width front) = lineColumn front := by
  obtain ⟨lines, last, rfl, hl, hn⟩ := exists_lines front
  have hline : lines.reverse.takeWhile (· ≠ '\n') = [] := by
    rcases hl with rfl | ⟨t, rfl⟩
    · rfl
    · rw [reverse_concat, takeWhile_cons_of_neg (by simp)]
  have hlast : ∀ c ∈ last.reverse, decide (c ≠ '\n') = true := by
    intro c hc
    rw [decide_eq_true_iff]
    rintro rfl
    exact hn (mem_reverse.mp hc)
  rw [of_append h hl hn, lineColumn, count_append, count_eq_zero_of_not_mem hn, Nat.add_zero,
    reverse_append, takeWhile_append_of_pos hlast, hline, append_nil, length_reverse]

theorem dropLines_append (h : EndsLine lines) (back : List Char) :
    dropLines (lines.count '\n') (lines ++ back) = back := by
  induction lines with
  | nil => cases back <;> rfl
  | cons c s ih =>
    have hs : EndsLine s := by
      obtain h | ⟨t, ht⟩ := h
      · cases h
      · cases t with
        | nil =>
          cases ht
          exact .inl rfl
        | cons d t =>
          cases ht
          exact .inr ⟨t, rfl⟩
    by_cases hc : c = '\n'
    · rw [hc, count_cons_self, cons_append, dropLines, if_pos (beq_self_eq_true _)]
      exact ih hs
    · -- Some line break is still to come.
      obtain ⟨n, hn⟩ : ∃ n, s.count '\n' = n + 1 := by
        rcases hs with rfl | ⟨t, rfl⟩
        · obtain h | ⟨t, ht⟩ := h
          · cases h
          · exact absurd (by simpa using congrArg getLast? ht) hc
        · exact ⟨t.count '\n', by rw [count_append, count_singleton_self]⟩
      rw [count_cons_of_ne (by simpa using hc), hn, cons_append, dropLines,
        if_neg (by simpa using hc), ← hn]
      exact ih hs

/-- The text from the line and the column of an offset on is the text behind the offset. -/
theorem textFrom_of {source : String} (h : source.toList = front ++ back) :
    textFrom (Position.of source (width front)).1 (Position.of source (width front)).2
      source.toList = back := by
  obtain ⟨lines, last, rfl, hl, hn⟩ := exists_lines front
  rw [of_append h hl hn, textFrom, Nat.add_sub_cancel, Nat.add_sub_cancel, h, append_assoc,
    dropLines_append hl, drop_left]

end HeadAudit.Markup.Position

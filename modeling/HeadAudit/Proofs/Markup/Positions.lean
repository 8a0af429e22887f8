import HeadAudit.Proofs.Markup.Lines

namespace HeadAudit.Markup.Position

open List StartTag

variable {source : String} {front t : List Char} {offset : Nat}

def IsBoundary (source : String) (offset : Nat) : Prop := String.Pos.Raw.IsValid source ⟨offset⟩

theorem isBoundary_iff :
    IsBoundary source offset ↔
      ∃ front back, source.toList = front ++ back ∧ width front = offset := by
  rw [IsBoundary, String.Pos.Raw.isValid_iff_exists_append]
  constructor
  · rintro ⟨s, t, rfl, h⟩
    refine ⟨s.toList, t.toList, String.toList_append, ?_⟩
    rw [width_toList]
    exact (congrArg String.Pos.Raw.byteIdx h).symm
  · rintro ⟨front, back, h, hw⟩
    refine ⟨String.ofList front, String.ofList back, ?_, ?_⟩
    · rw [← String.ofList_append, ← h, String.ofList_toList]
    · rw [String.Pos.Raw.ext_iff, ← hw, ← String.toList_ofList (l := front), width_toList,
        String.toList_ofList]
      rfl

section Search

variable {p : Nat → Bool} {before after : List Nat}

/-- The number of entries in front of the first that fails the test, found by halving the range in
which it lies. -/
def partitionPoint (p : Nat → Bool) (xs : List Nat) (low high : Nat) : Nat :=
  if low < high then
    let middle := low + (high - low) / 2
    if xs[middle]?.any p then partitionPoint p xs (middle + 1) high
    else partitionPoint p xs low middle
  else low
termination_by high - low

theorem any_getElem?_append_iff (hb : ∀ x ∈ before, p x = true) (ha : ∀ x ∈ after, p x = false)
    (i : Nat) : (before ++ after)[i]?.any p = true ↔ i < before.length := by
  rw [Option.any_eq_true]
  constructor
  · rintro ⟨x, hx, hp⟩
    by_contra hi
    rw [getElem?_append_right (Nat.not_lt.mp hi)] at hx
    rw [ha x (mem_of_getElem? hx)] at hp
    cases hp
  · intro hi
    refine ⟨before[i], ?_, hb _ (getElem_mem hi)⟩
    rw [getElem?_append_left hi, List.getElem?_eq_getElem hi]

/-- The range always has the place where entries that pass meet entries that fail. -/
theorem partitionPoint_append (hb : ∀ x ∈ before, p x = true) (ha : ∀ x ∈ after, p x = false)
    {low high : Nat} (hlow : low ≤ before.length) (hhigh : before.length ≤ high) :
    partitionPoint p (before ++ after) low high = before.length := by
  fun_induction partitionPoint p (before ++ after) low high with
  | case1 low high hlt middle hm ih =>
    exact ih ((any_getElem?_append_iff hb ha middle).mp hm) hhigh
  | case2 low high hlt middle hm ih =>
    exact ih hlow (Nat.not_lt.mp fun h => hm ((any_getElem?_append_iff hb ha middle).mpr h))
  | case3 low high hle => omega

/-- On rising entries a linear search and halving agree. -/
theorem partitionPoint_of_rising {xs : List Nat} (h : xs.Pairwise (· < ·)) (offset : Nat) :
    partitionPoint (· ≤ offset) xs 0 xs.length = (xs.takeWhile (· ≤ offset)).length := by
  have hafter : ∀ x ∈ xs.dropWhile (· ≤ offset), decide (x ≤ offset) = false := by
    have hhead := head?_dropWhile_not (fun x => decide (x ≤ offset)) xs
    have hrise := h.sublist (dropWhile_sublist fun x => decide (x ≤ offset))
    cases hd : xs.dropWhile (· ≤ offset) with
    | nil => exact fun x hx => absurd hx not_mem_nil
    | cons first later =>
      rw [hd] at hhead hrise
      have hfirst : ¬ first ≤ offset := of_decide_eq_false hhead
      intro x hx
      rw [decide_eq_false_iff_not]
      rcases mem_cons.mp hx with rfl | hx
      · exact hfirst
      · have hlt := (pairwise_cons.mp hrise).1 x hx
        omega
  have hprefix : xs.takeWhile (· ≤ offset) <+: xs := takeWhile_prefix _
  have hbefore : ∀ x ∈ xs.takeWhile (· ≤ offset), decide (x ≤ offset) = true :=
    fun x hx => mem_takeWhile_imp (p := fun x => decide (x ≤ offset)) hx
  have hp := partitionPoint_append hbefore hafter (Nat.zero_le _) hprefix.length_le
  rwa [takeWhile_append_dropWhile] at hp

end Search

section Starts

theorem pairwise_breaks (pos : Nat) (s : List Char) : (breaks pos s).Pairwise (· < ·) := by
  induction s generalizing pos with
  | nil => exact .nil
  | cons c s ih =>
    rw [breaks]
    split
    · exact .cons (fun offset h => (lt_of_mem_breaks h).1) (ih _)
    · exact ih _

theorem pairwise_lineStarts (source : String) : (lineStarts source).Pairwise (· < ·) :=
  .cons (fun _ h => (lt_of_mem_breaks h).1) (pairwise_breaks 0 source.toList)

def startsUpTo (source : String) (offset : Nat) : List Nat :=
  (lineStarts source).takeWhile (· ≤ offset)

theorem startsUpTo_ne_nil (source : String) (offset : Nat) : startsUpTo source offset ≠ [] := by
  rw [startsUpTo, lineStarts, takeWhile_cons_of_pos (by simp)]
  exact cons_ne_nil _ _

/-- The line of an offset has a start, which is not behind the offset. -/
theorem exists_start (source : String) (offset : Nat) :
    ∃ start ≤ offset, (startsUpTo source offset).getLastD 0 = start ∧
      (lineStarts source)[(startsUpTo source offset).length - 1]? = some start := by
  have hne := startsUpTo_ne_nil source offset
  have hpos := length_pos_iff.mpr hne
  have hlast : (startsUpTo source offset).getLast? =
      some ((startsUpTo source offset).getLast hne) := getLast?_eq_some_getLast hne
  obtain ⟨back, hback⟩ := takeWhile_prefix (l := lineStarts source) (· ≤ offset)
  refine ⟨(startsUpTo source offset).getLast hne, ?_, ?_, ?_⟩
  · exact of_decide_eq_true
      (mem_takeWhile_imp (p := fun x => decide (x ≤ offset)) (getLast_mem hne))
  · rw [getLastD_eq_getLast?, hlast, Option.getD_some]
  · rw [← hback, ← startsUpTo, getElem?_append_left (by omega), ← getLast?_eq_getElem?, hlast]

/-- The position of an offset, with the start of its line found by halving. There is none if that
would have to be looked up outside of the line starts, or lies behind the offset. -/
def locate? (source : String) (offset : Nat) : Option (Nat × Nat) :=
  let starts := lineStarts source
  match partitionPoint (· ≤ offset) starts 0 starts.length with
  | 0 => none
  | line + 1 => do
    let start ← starts[line]?
    if offset < start then none
    let count := (from? source.toList start).bind (charCount? · (offset - start))
    return (line + 1, count.getD (offset - start) + 1)

theorem locate?_eq (source : String) (offset : Nat) :
    locate? source offset = some (Position.of source offset) := by
  have hpoint : partitionPoint (· ≤ offset) (lineStarts source) 0 (lineStarts source).length =
      (startsUpTo source offset).length :=
    partitionPoint_of_rising (pairwise_lineStarts source) offset
  obtain ⟨start, hle, hlast, hget⟩ := exists_start source offset
  obtain ⟨line, hline⟩ : ∃ line, (startsUpTo source offset).length = line + 1 :=
    Nat.exists_eq_add_one.mpr (length_pos_iff.mpr (startsUpTo_ne_nil source offset))
  have hof : Position.of source offset = (line + 1,
      ((from? source.toList start).bind
        (charCount? · (offset - start))).getD (offset - start) + 1) := by
    rw [← hline, ← hlast]
    rfl
  rw [hline, Nat.add_sub_cancel] at hget
  simp only [locate?, hpoint, hline, hget]
  rw [hof, Option.bind_eq_bind, Option.bind_some, if_neg (Nat.not_lt.mpr hle)]
  rfl

end Starts

section Monotone

/-- More text leads to a later position: to a later line if it has a line break, else to a later
column of the same line. -/
theorem lineColumn_lt_append (front : List Char) (ht : t ≠ []) :
    toLex (lineColumn front) < toLex (lineColumn (front ++ t)) := by
  rw [Prod.Lex.toLex_lt_toLex, lineColumn, lineColumn, count_append]
  by_cases hn : '\n' ∈ t
  · have hpos := count_pos_iff.mpr hn
    left
    dsimp only
    omega
  · have htail : ∀ c ∈ t.reverse, decide (c ≠ '\n') = true := by
      intro c hc
      rw [decide_eq_true_iff]
      rintro rfl
      exact hn (mem_reverse.mp hc)
    have hpos := length_pos_iff.mpr ht
    right
    rw [count_eq_zero_of_not_mem hn, reverse_append, takeWhile_append_of_pos htail, length_append,
      length_reverse]
    exact ⟨rfl, by dsimp only; omega⟩

theorem of_lt_of {a b : Nat} (ha : IsBoundary source a) (hb : IsBoundary source b) (h : a < b) :
    toLex (Position.of source a) < toLex (Position.of source b) := by
  obtain ⟨front, back, hfront, rfl⟩ := isBoundary_iff.mp ha
  obtain ⟨longer, back', hlonger, rfl⟩ := isBoundary_iff.mp hb
  rw [of_width hfront, of_width hlonger]
  rcases prefix_or_prefix_of_prefix (⟨back, hfront.symm⟩ : front <+: source.toList)
    (⟨back', hlonger.symm⟩ : longer <+: source.toList) with ⟨t, rfl⟩ | ⟨t, rfl⟩
  · apply lineColumn_lt_append
    rintro rfl
    rw [append_nil] at h
    exact absurd h (Nat.lt_irrefl _)
  · rw [width_append] at h
    omega

end Monotone

/-- What positions tell of a text: the line of an offset is found by halving the line starts without
a look-up out of bounds, line and column count line breaks and characters, and offsets at
boundaries are told apart and kept in their order. -/
structure Pinpoints (source : String) : Prop where
  located : ∀ offset, locate? source offset = some (Position.of source offset)
  counts : ∀ offset, IsBoundary source offset → ∃ front back, source.toList = front ++ back ∧
    width front = offset ∧ Position.of source offset =
      (1 + front.count '\n', 1 + (front.reverse.takeWhile (· ≠ '\n')).length)
  rising : ∀ a b, IsBoundary source a → IsBoundary source b → a < b →
    toLex (Position.of source a) < toLex (Position.of source b)
  injective : ∀ a b, IsBoundary source a → IsBoundary source b →
    Position.of source a = Position.of source b → a = b

theorem pinpoints (source : String) : Pinpoints source where
  located := locate?_eq source
  counts := by
    intro offset h
    obtain ⟨front, back, hfront, hw⟩ := isBoundary_iff.mp h
    refine ⟨front, back, hfront, hw, ?_⟩
    rw [← hw, of_width hfront, lineColumn, Nat.add_comm 1, Nat.add_comm 1]
  rising := fun a b ha hb h => of_lt_of ha hb h
  injective := by
    intro a b ha hb h
    rcases Nat.lt_trichotomy a b with hlt | heq | hgt
    · exact absurd (congrArg toLex h) (of_lt_of ha hb hlt).ne
    · exact heq
    · exact absurd (congrArg toLex h) (of_lt_of hb ha hgt).ne'

end HeadAudit.Markup.Position

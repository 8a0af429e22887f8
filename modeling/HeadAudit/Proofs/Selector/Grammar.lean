import Mathlib
import HeadAudit.Adapter.Selector

namespace HeadAudit.Selector

open List

section Grammar

def Ident (cs : List Char) : Prop := cs ≠ [] ∧ ∀ c ∈ cs, isIdentChar c

def Blanks (cs : List Char) : Prop := ∀ c ∈ cs, Ascii.isBlank c

def Stops (p : Char → Bool) (rest : List Char) : Prop := ∀ c ∈ rest.head?, p c = false

def IsQuote (c : Char) : Prop := c = '"' ∨ c = '\''

/-- A value as it is written in front of `rest`. A bare value reaches as far as it can. -/
inductive Value (rest : List Char) : List Char → List Char → Prop
  | quoted {quote value} (hq : IsQuote quote) (hv : quote ∉ value) :
      Value rest (quote :: value ++ [quote]) value
  | bare {value} (hv : Ident value) (hr : Stops isIdentChar rest) : Value rest value value

inductive Flag : List Char → Bool → Prop
  | absent : Flag [] false
  | ignoring {c} (h : c = 'i' ∨ c = 'I') : Flag [c] true
  | regarding {c} (h : c = 's' ∨ c = 'S') : Flag [c] false

inductive Comparison : List Char → Option String → Bool → Prop
  | absent : Comparison [] none false
  | present {gap written value gap' flag ignoreCase gap''} (hg : Blanks gap)
      (hv : Value (gap' ++ flag ++ gap'') written value) (hg' : Blanks gap')
      (hf : Flag flag ignoreCase) (hg'' : Blanks gap'') :
      Comparison ('=' :: gap ++ written ++ (gap' ++ flag ++ gap'')) (some (String.ofList value))
        ignoreCase

inductive Test : List Char → AttributeTest → Prop
  | mk {gap name gap' written value ignoreCase} (hg : Blanks gap) (hn : Ident name)
      (hg' : Blanks gap') (hc : Comparison written value ignoreCase) :
      Test ('[' :: gap ++ name ++ gap' ++ written ++ [']'])
        { name := Ascii.lower (String.ofList name), value, ignoreCase }

inductive Tests : List Char → List AttributeTest → Prop
  | nil : Tests [] []
  | cons {written test rest tests} (ht : Test written test) (hr : Tests rest tests) :
      Tests (written ++ rest) (test :: tests)

inductive Tag : List Char → Option String → Prop
  | star : Tag ['*'] none
  | named {name} (h : Ident name) : Tag name (some (Ascii.lower (String.ofList name)))
  | absent : Tag [] none

/-- The texts of selectors and what they stand for. -/
inductive Pattern : List Char → Selector → Prop
  | mk {written tag rest tests} (ht : Tag written tag) (hr : Tests rest tests) :
      Pattern (written ++ rest) ⟨tag, tests⟩

def text (s : String) : List Char := Text.strip Text.isBlank s.toList

end Grammar

section Runs

variable {p : Char → Bool} {cs run rest : List Char}

theorem stops_dropWhile (p : Char → Bool) (cs : List Char) : Stops p (cs.dropWhile p) := by
  intro c hc
  have h := head?_dropWhile_not p cs
  rw [Option.mem_def.mp hc] at h
  exact h

theorem Stops.cons {c : Char} (h : p c = false) : Stops p (c :: rest) := by
  intro d hd
  rwa [← Option.some.inj hd]

theorem Stops.dropWhile_eq (h : Stops p rest) : rest.dropWhile p = rest := by
  cases rest with
  | nil => rfl
  | cons c rest => rw [dropWhile_cons, h c rfl, if_neg Bool.false_ne_true]

theorem Stops.takeWhile_eq (h : Stops p rest) : rest.takeWhile p = [] := by
  cases rest with
  | nil => rfl
  | cons c rest => rw [takeWhile_cons, h c rfl, if_neg Bool.false_ne_true]

theorem dropWhile_run (hr : ∀ c ∈ run, p c) (hs : Stops p rest) :
    (run ++ rest).dropWhile p = rest := by
  rw [dropWhile_append_of_pos hr, hs.dropWhile_eq]

theorem takeWhile_run (hr : ∀ c ∈ run, p c) (hs : Stops p rest) :
    (run ++ rest).takeWhile p = run := by
  rw [takeWhile_append_of_pos hr, hs.takeWhile_eq, append_nil]

theorem skipBlanks_append (hg : Blanks run) (hs : Stops Ascii.isBlank rest) :
    skipBlanks (run ++ rest) = rest := dropWhile_run hg hs

theorem exists_blanks (cs : List Char) : ∃ gap, Blanks gap ∧ cs = gap ++ skipBlanks cs :=
  ⟨cs.takeWhile Ascii.isBlank, fun _ hc => mem_takeWhile_imp hc, takeWhile_append_dropWhile.symm⟩

theorem ident?_eq_some_iff :
    ident? cs = some (run, rest) ↔ cs = run ++ rest ∧ Ident run ∧ Stops isIdentChar rest := by
  constructor
  · intro h
    rw [ident?] at h
    split at h
    · cases h
    · next hne =>
      cases h
      refine ⟨takeWhile_append_dropWhile.symm, ⟨?_, fun _ hc => mem_takeWhile_imp hc⟩,
        stops_dropWhile _ _⟩
      exact fun he => hne (by rw [he]; rfl)
  · rintro ⟨rfl, ⟨hne, hall⟩, hs⟩
    rw [ident?, takeWhile_run hall hs, dropWhile_run hall hs, if_neg]
    rwa [List.isEmpty_iff]

theorem stops_append {c : Char} (hc : p c = false) : Stops p (run ++ c :: rest) ↔ Stops p run := by
  cases run with
  | nil => exact iff_of_true (Stops.cons hc) nofun
  | cons d run => rfl

end Runs

section Parts

variable {cs written value rest gap gap' name : List Char} {c quote : Char} {ignoreCase : Bool}

theorem not_isBlank_of_isIdentChar (h : isIdentChar c) : Ascii.isBlank c = false := by
  rw [Bool.eq_false_iff]
  intro hb
  simp only [Ascii.isBlank, Bool.or_eq_true, beq_iff_eq] at hb
  rcases hb with (((rfl | rfl) | rfl) | rfl) | rfl <;> exact absurd h (by decide)

theorem not_isQuote_of_isIdentChar (h : isIdentChar c) : ¬ IsQuote c := by
  rintro (rfl | rfl) <;> exact absurd h (by decide)

theorem Ident.exists_cons (h : Ident name) : ∃ c cs, name = c :: cs ∧ isIdentChar c := by
  obtain ⟨c, cs, rfl⟩ := exists_cons_of_ne_nil h.1
  exact ⟨c, cs, rfl, h.2 c mem_cons_self⟩

theorem Blanks.stops (hg : Blanks gap) (hs : Stops isIdentChar rest) :
    Stops isIdentChar (gap ++ rest) := by
  cases gap with
  | nil => exact hs
  | cons c gap =>
    refine Stops.cons (Bool.eq_false_iff.mpr fun hc => ?_)
    have hblank := hg c mem_cons_self
    rw [not_isBlank_of_isIdentChar hc] at hblank
    cases hblank

theorem Ident.stops (h : Ident name) (more : List Char) : Stops Ascii.isBlank (name ++ more) := by
  obtain ⟨c, cs, rfl, hc⟩ := h.exists_cons
  exact Stops.cons (not_isBlank_of_isIdentChar hc)

theorem Value.stops (h : Value rest written value) (more : List Char) :
    Stops Ascii.isBlank (written ++ more) := by
  cases h with
  | quoted hq hv =>
    refine Stops.cons ?_
    rcases hq with rfl | rfl <;> rfl
  | bare hv hr => exact hv.stops more

theorem Value.of_stops {rest' : List Char} (h : Value rest written value)
    (hr : Stops isIdentChar rest → Stops isIdentChar rest') : Value rest' written value := by
  cases h with
  | quoted hq hv => exact .quoted hq hv
  | bare hv hs => exact .bare hv (hr hs)

theorem value?_quote (hq : IsQuote quote) : value? (quote :: cs) =
    match cs.dropWhile (· != quote) with
      | _ :: after => some (cs.takeWhile (· != quote), after)
      | [] => none := by
  have hquote : quote == '"' || quote == '\'' := by
    rcases hq with rfl | rfl <;> rfl
  exact if_pos hquote

theorem value?_of_not_isQuote (hq : ¬ IsQuote c) : value? (c :: cs) = ident? (c :: cs) := by
  rw [value?, if_neg]
  rwa [Bool.or_eq_true, beq_iff_eq, beq_iff_eq]

theorem value?_eq_some_iff :
    value? cs = some (value, rest) ↔
      ∃ written, cs = written ++ rest ∧ Value rest written value := by
  constructor
  · intro h
    cases cs with
    | nil => cases h
    | cons c cs =>
      by_cases hq : IsQuote c
      · rw [value?_quote hq] at h
        split at h
        · next d after hd =>
          cases h
          have hcs := takeWhile_append_dropWhile (p := (· != c)) (l := cs)
          have hstop := stops_dropWhile (· != c) cs
          rw [hd] at hcs hstop
          obtain rfl : d = c := by simpa using hstop d rfl
          refine ⟨d :: cs.takeWhile (· != d) ++ [d], by simpa using hcs.symm, .quoted hq ?_⟩
          intro hm
          simpa using mem_takeWhile_imp hm
        · cases h
      · rw [value?_of_not_isQuote hq, ident?_eq_some_iff] at h
        obtain ⟨hcs, hv, hs⟩ := h
        exact ⟨value, hcs, .bare hv hs⟩
  · rintro ⟨written, rfl, h⟩
    cases h with
    | @quoted quote _ hq hv =>
      have hrun : ∀ c ∈ value, (c != quote) = true := fun c hc => by
        rw [bne_iff_ne]
        rintro rfl
        exact hv hc
      have hstop : Stops (· != quote) (quote :: rest) := Stops.cons (bne_self_eq_false quote)
      rw [cons_append, cons_append, append_assoc, cons_append, nil_append, value?_quote hq,
        dropWhile_run hrun hstop, takeWhile_run hrun hstop]
    | bare hv hs =>
      obtain ⟨c, cs, rfl, hc⟩ := hv.exists_cons
      rw [cons_append, value?_of_not_isQuote (not_isQuote_of_isIdentChar hc), ← cons_append,
        ident?_eq_some_iff]
      exact ⟨rfl, hv, hs⟩

theorem exists_flag (cs : List Char) :
    ∃ written, cs = written ++ (flag cs).2 ∧ Flag written (flag cs).1 := by
  cases cs with
  | nil => exact ⟨[], rfl, .absent⟩
  | cons c cs =>
    rw [flag]
    split
    · next h =>
      rw [Bool.or_eq_true, beq_iff_eq, beq_iff_eq] at h
      exact ⟨[c], rfl, .ignoring h⟩
    · split
      · next h =>
        rw [Bool.or_eq_true, beq_iff_eq, beq_iff_eq] at h
        exact ⟨[c], rfl, .regarding h⟩
      · exact ⟨[], rfl, .absent⟩

/-- Behind a value a flag is found between any blanks. -/
theorem flag_skipBlanks {gap'' : List Char} (hg' : Blanks gap') (hf : Flag written ignoreCase)
    (hg'' : Blanks gap'') (rest : List Char) :
    (flag (skipBlanks (gap' ++ written ++ gap'' ++ ']' :: rest))).1 = ignoreCase ∧
      skipBlanks (flag (skipBlanks (gap' ++ written ++ gap'' ++ ']' :: rest))).2 = ']' :: rest := by
  have hclose : Stops Ascii.isBlank (']' :: rest) := Stops.cons rfl
  have hsplit : ∀ {c}, Ascii.isBlank c = false →
      skipBlanks (gap' ++ [c] ++ gap'' ++ ']' :: rest) = c :: (gap'' ++ ']' :: rest) := by
    intro c hc
    rw [append_assoc, append_assoc]
    exact skipBlanks_append hg' (Stops.cons hc)
  cases hf with
  | absent =>
    have hgap : Blanks (gap' ++ gap'') := fun c hc => (mem_append.mp hc).elim (hg' c) (hg'' c)
    rw [append_nil, skipBlanks_append hgap hclose]
    exact ⟨rfl, hclose.dropWhile_eq⟩
  | ignoring h =>
    rcases h with rfl | rfl <;>
    · rw [hsplit rfl]
      exact ⟨rfl, skipBlanks_append hg'' hclose⟩
  | regarding h =>
    rcases h with rfl | rfl <;>
    · rw [hsplit rfl]
      exact ⟨rfl, skipBlanks_append hg'' hclose⟩

theorem comparison?_eq_some_iff {value : Option String} :
    comparison? cs = some ((value, ignoreCase), ']' :: rest) ↔
      ∃ written, cs = written ++ ']' :: rest ∧ Comparison written value ignoreCase := by
  constructor
  · intro h
    rw [comparison?.eq_def] at h
    split at h
    · next cs =>
      simp only [Option.bind_eq_bind, Option.bind_eq_some_iff, Prod.exists, Option.pure_def,
        Option.some.injEq, Prod.mk.injEq] at h
      obtain ⟨value, rest', hv, ⟨rfl, rfl⟩, hrest⟩ := h
      obtain ⟨gap, hg, hcs⟩ := exists_blanks cs
      obtain ⟨written, hw, hvalue⟩ := value?_eq_some_iff.mp hv
      obtain ⟨gap', hg', hrest'⟩ := exists_blanks rest'
      obtain ⟨mark, hmark, hf⟩ := exists_flag (skipBlanks rest')
      obtain ⟨gap'', hg'', hend⟩ := exists_blanks (flag (skipBlanks rest')).2
      have hall : rest' = gap' ++ mark ++ gap'' ++ ']' :: rest := by
        rw [append_assoc, append_assoc, ← hrest, ← hend, ← hmark, ← hrest']
      refine ⟨_, ?_, .present hg (hvalue.of_stops fun hs => ?_) hg' hf hg''⟩
      · rw [hcs, hw, hall]
        simp only [append_assoc, cons_append]
      · rw [hall] at hs
        exact (stops_append rfl).mp hs
    · cases h
      exact ⟨[], rfl, .absent⟩
  · rintro ⟨written, rfl, h⟩
    cases h with
    | absent => rfl
    | @present gap written value gap' mark _ gap'' hg hv hg' hf hg'' =>
      obtain ⟨hflag, hrest⟩ := flag_skipBlanks hg' hf hg'' rest
      have hvalue :
          value? (skipBlanks (gap ++ (written ++ (gap' ++ mark ++ gap'' ++ ']' :: rest)))) =
            some (value, gap' ++ mark ++ gap'' ++ ']' :: rest) := by
        rw [skipBlanks_append hg (hv.stops _), value?_eq_some_iff]
        exact ⟨written, rfl, hv.of_stops (stops_append rfl).mpr⟩
      rw [cons_append, cons_append, cons_append, append_assoc, append_assoc, comparison?, hvalue]
      simp only [Option.bind_eq_bind, Option.bind_some, hflag, hrest]
      rfl

theorem lowered_eq (cs : List Char) : lowered cs = Ascii.lower (String.ofList cs) := by
  rw [← String.toList_inj, Ascii.toList_lower, lowered, String.toList_ofList, String.toList_ofList]

theorem Comparison.stops {value : Option String} (h : Comparison written value ignoreCase)
    {p : Char → Bool} (heq : p '=' = false) (hclose : p ']' = false) :
    Stops p (written ++ ']' :: rest) := by
  cases h with
  | absent => exact Stops.cons hclose
  | present => exact Stops.cons heq

theorem test?_eq_some_iff {test : AttributeTest} :
    test? cs = some (test, rest) ↔ ∃ written, '[' :: cs = written ++ rest ∧ Test written test := by
  constructor
  · intro h
    rw [test?] at h
    simp only [Option.bind_eq_bind, Option.bind_eq_some_iff, Prod.exists] at h
    obtain ⟨name, rest', hn, value, ignoreCase, rest'', hc, h⟩ := h
    split at h
    · next rest₁ =>
      cases h
      obtain ⟨gap, hg, hcs⟩ := exists_blanks cs
      obtain ⟨hcs', hname, -⟩ := ident?_eq_some_iff.mp hn
      obtain ⟨gap', hg', hrest'⟩ := exists_blanks rest'
      obtain ⟨written, hw, hcomparison⟩ := comparison?_eq_some_iff.mp hc
      rw [lowered_eq]
      refine ⟨_, ?_, .mk hg hname hg' hcomparison⟩
      rw [hcs, hcs', hrest', hw]
      simp only [append_assoc, cons_append, nil_append]
    · cases h
  · rintro ⟨_, hcs, h⟩
    cases h with
    | @mk gap name gap' written value ignoreCase hg hn hg' hc =>
      have hcs : cs = gap ++ (name ++ (gap' ++ (written ++ ']' :: rest))) := by
        simpa using hcs
      have hident : ident? (skipBlanks cs) =
          some (name, gap' ++ (written ++ ']' :: rest)) := by
        rw [hcs, skipBlanks_append hg (hn.stops _), ident?_eq_some_iff]
        exact ⟨rfl, hn, hg'.stops (hc.stops rfl rfl)⟩
      have hcomparison : comparison? (skipBlanks (gap' ++ (written ++ ']' :: rest))) =
          some ((value, ignoreCase), ']' :: rest) := by
        rw [skipBlanks_append hg' (hc.stops rfl rfl), comparison?_eq_some_iff]
        exact ⟨written, rfl, hc⟩
      rw [test?, hident]
      simp only [Option.bind_eq_bind, Option.bind_some, hcomparison, lowered_eq]
      rfl

theorem Test.exists_cons {test : AttributeTest} (h : Test written test) :
    ∃ cs, written = '[' :: cs := by
  cases h with
  | mk => exact ⟨_, rfl⟩

theorem tests_cons_iff {tests : List AttributeTest} : Tests (c :: cs) tests ↔
    ∃ written rest test tests', c :: cs = written ++ rest ∧ tests = test :: tests' ∧
      Test written test ∧ Tests rest tests' := by
  constructor
  · intro h
    generalize hall : c :: cs = all at h
    cases h with
    | nil => cases hall
    | cons ht hr => exact ⟨_, _, _, _, rfl, rfl, ht, hr⟩
  · rintro ⟨written, rest, test, tests', hall, rfl, ht, hr⟩
    rw [hall]
    exact .cons ht hr

theorem tests_nil_iff {tests : List AttributeTest} : Tests [] tests ↔ tests = [] := by
  constructor
  · intro h
    generalize hall : [] = all at h
    cases h with
    | nil => rfl
    | cons ht hr =>
      obtain ⟨cs, rfl⟩ := ht.exists_cons
      cases hall
  · rintro rfl
    exact .nil

/-- Each test takes two characters at least, so the fuel of a text is enough for it. -/
theorem tests?_eq_some_iff {fuel : Nat} {tests : List AttributeTest} (hf : cs.length ≤ fuel) :
    tests? fuel cs = some tests ↔ Tests cs tests := by
  induction fuel generalizing cs tests with
  | zero =>
    rw [length_eq_zero_iff.mp (Nat.le_zero.mp hf), tests_nil_iff, tests?, Option.some.injEq,
      eq_comm]
  | succ fuel ih =>
    cases cs with
    | nil => rw [tests_nil_iff, tests?, Option.some.injEq, eq_comm]
    | cons c cs =>
      rw [tests_cons_iff]
      -- A test takes its bracket at least, so the fuel suffices for what follows.
      have hrest : ∀ {written rest test}, c :: cs = written ++ rest → Test written test →
          rest.length ≤ fuel := by
        intro written rest test hall ht
        obtain ⟨inner, rfl⟩ := ht.exists_cons
        have hlength := congrArg length hall
        simp only [length_cons, length_append] at hlength hf
        omega
      by_cases hc : c = '['
      · subst hc
        rw [tests?]
        simp only [Option.bind_eq_bind, Option.bind_eq_some_iff, Prod.exists, Option.pure_def,
          Option.some.injEq]
        constructor
        · rintro ⟨test, rest, htest, tests', hr, rfl⟩
          obtain ⟨written, hall, ht⟩ := test?_eq_some_iff.mp htest
          exact ⟨written, rest, test, tests', hall, rfl, ht, (ih (hrest hall ht)).mp hr⟩
        · rintro ⟨written, rest, test, tests', hall, rfl, ht, hr⟩
          exact ⟨test, rest, test?_eq_some_iff.mpr ⟨written, hall, ht⟩, tests',
            (ih (hrest hall ht)).mpr hr, rfl⟩
      · have hnone : tests? (fuel + 1) (c :: cs) = none := by
          rw [tests?.eq_def]
          split <;> simp_all
        rw [hnone]
        refine iff_of_false nofun ?_
        rintro ⟨written, rest, test, tests', hall, -, ht, -⟩
        obtain ⟨inner, rfl⟩ := ht.exists_cons
        exact hc (cons.inj hall).1

theorem Tests.stops {tests : List AttributeTest} (h : Tests cs tests) : Stops isIdentChar cs := by
  cases h with
  | nil => exact nofun
  | cons ht hr =>
    obtain ⟨inner, rfl⟩ := ht.exists_cons
    exact Stops.cons rfl

end Parts

/-- The parser takes the texts of the grammar and no others. -/
theorem parse?_eq_some_iff_pattern {s : String} {p : Selector} :
    parse? s = some p ↔ text s ≠ [] ∧ Pattern (text s) p := by
  have hread : ∀ {cs : List Char} {tag : Option String},
      (tests? cs.length cs).map (Selector.mk tag) = some p ↔
        ∃ tests, Tests cs tests ∧ Selector.mk tag tests = p := by
    intro cs tag
    simp only [Option.map_eq_some_iff, tests?_eq_some_iff le_rfl]
  rw [parse?, text]
  generalize Text.strip Text.isBlank s.toList = cs
  constructor
  · intro h
    split at h
    · cases h
    · obtain ⟨tests, ht, rfl⟩ := hread.mp h
      exact ⟨nofun, .mk .star ht⟩
    · next hne _ =>
      refine ⟨hne, ?_⟩
      split at h
      · next name rest hi =>
        obtain ⟨tests, ht, rfl⟩ := hread.mp h
        obtain ⟨rfl, hn, -⟩ := ident?_eq_some_iff.mp hi
        rw [lowered_eq]
        exact .mk (.named hn) ht
      · obtain ⟨tests, ht, rfl⟩ := hread.mp h
        exact .mk .absent ht
  · rintro ⟨hne, h⟩
    cases h with
    | @mk written tag rest tests ht hr =>
      cases ht with
      | star => exact hread.mpr ⟨tests, hr, rfl⟩
      | named hn =>
        have hident := ident?_eq_some_iff.mpr ⟨rfl, hn, hr.stops⟩
        obtain ⟨c, cs, rfl, hc⟩ := hn.exists_cons
        split
        · next he => exact absurd he hne
        · next he =>
          rw [(cons.inj he).1] at hc
          cases hc
        · rw [hident]
          dsimp only
          rw [lowered_eq]
          exact hread.mpr ⟨tests, hr, rfl⟩
      | absent =>
        rw [nil_append] at hne ⊢
        cases hr with
        | nil => exact absurd rfl hne
        | cons ht hr =>
          obtain ⟨inner, rfl⟩ := ht.exists_cons
          exact hread.mpr ⟨_, .cons ht hr, rfl⟩

end HeadAudit.Selector

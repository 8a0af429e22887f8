import Mathlib
import HeadAudit.Check.Viewport
import HeadAudit.Markup.View
import HeadAudit.Proofs.Live.Attributes
import HeadAudit.Proofs.Parity.View
import HeadAudit.Proofs.Text.Dictionary
import HeadAudit.Proofs.Text.Pieces

namespace HeadAudit.Check.Viewport

open List

section Items

variable {item key value s t : String} {entry : String × String}

def keyOf (item : String) : String :=
  Ascii.lower (Text.trim (String.ofList (item.toList.takeWhile (· != '='))))

def valueOf (item : String) : String :=
  Ascii.lower (Text.trim (String.ofList ((item.toList.dropWhile (· != '=')).drop 1)))

def items (s : String) : List String := (Text.pieces ',' s).filter (!Text.blank ·)

def entries (s : String) : List (String × String) :=
  (items s).map fun item => (keyOf item, valueOf item)

theorem directive_lower (item : String) :
    directive (Ascii.lower item).toList = (keyOf item, valueOf item) := by
  have hbeq : ∀ c : Char, (c.toLower != '=') = (c != '=') := fun c =>
    congrArg not (Text.toLower_beq rfl c)
  have hcomp : (· != '=') ∘ Char.toLower = (· != '=') := funext hbeq
  have htrim : ∀ cs : List Char, String.ofList (Text.strip Text.isBlank (cs.map Char.toLower)) =
      Ascii.lower (Text.trim (String.ofList cs)) := fun cs => by
    rw [← String.toList_inj, String.toList_ofList, Text.strip_map Text.isBlank_toLower,
      Ascii.toList_lower, Text.trim, String.toList_ofList, String.toList_ofList]
  rw [directive, Ascii.toList_lower, takeWhile_map, dropWhile_map, hcomp, ← map_drop, htrim, htrim,
    keyOf, valueOf]

theorem parse_eq (s : String) : parse s = Dictionary.lasts (entries s) := by
  have hsplit : (Ascii.lower s).toList.splitOnP (· == ',') =
      (Text.pieces ',' s).map fun item => (Ascii.lower item).toList := by
    rw [← Text.map_toList_pieces, Text.pieces_lower rfl, map_map]
    rfl
  have hblank : ((fun cs : List Char => !cs.all Text.isBlank) ∘
      fun item => (Ascii.lower item).toList) = (!Text.blank ·) :=
    funext fun item => congrArg not (Text.blank_lower item)
  rw [parse]
  dsimp only
  rw [hsplit, filter_map, hblank, ← items, foldl_map, Dictionary.lasts, entries, foldl_map]
  simp only [directive_lower]

section Parts

theorem bne_of_not_mem (h : '=' ∉ key.toList) : ∀ c ∈ key.toList, (c != '=') = true := by
  intro c hc
  rw [bne_iff_ne]
  rintro rfl
  exact h hc

theorem keyOf_of_not_mem (h : '=' ∉ key.toList) : keyOf key = Ascii.lower (Text.trim key) := by
  rw [keyOf, takeWhile_eq_self_iff.mpr (bne_of_not_mem h), String.ofList_toList]

theorem valueOf_of_not_mem (h : '=' ∉ key.toList) : valueOf key = "" := by
  rw [valueOf, dropWhile_eq_nil_iff.mpr (bne_of_not_mem h)]
  decide +kernel

theorem toList_pair (key value : String) :
    (key ++ "=" ++ value).toList = key.toList ++ '=' :: value.toList := by
  rw [String.toList_append, String.toList_append, append_assoc]
  rfl

theorem keyOf_pair (h : '=' ∉ key.toList) (value : String) :
    keyOf (key ++ "=" ++ value) = Ascii.lower (Text.trim key) := by
  rw [keyOf, toList_pair, takeWhile_append_of_pos (bne_of_not_mem h),
    takeWhile_cons_of_neg (by decide), append_nil, String.ofList_toList]

theorem valueOf_pair (h : '=' ∉ key.toList) (value : String) :
    valueOf (key ++ "=" ++ value) = Ascii.lower (Text.trim value) := by
  rw [valueOf, toList_pair, dropWhile_append_of_pos (bne_of_not_mem h),
    dropWhile_cons_of_neg (by decide), drop_succ_cons, drop_zero, String.ofList_toList]

theorem exists_pair (item : String) : '=' ∉ item.toList ∨
    ∃ key value, '=' ∉ key.toList ∧ item = key ++ "=" ++ value := by
  by_cases h : '=' ∈ item.toList
  · obtain ⟨front, back, hitem, hf⟩ := eq_append_cons_of_mem h
    refine .inr ⟨String.ofList front, String.ofList back, by rwa [String.toList_ofList], ?_⟩
    rw [← String.toList_inj, toList_pair, String.toList_ofList, String.toList_ofList, hitem]
  · exact .inl h

theorem blank_pair (key value : String) : Text.blank (key ++ "=" ++ value) = false := by
  rw [Text.blank, toList_pair, all_append, all_cons]
  simp [show Text.isBlank '=' = false from rfl]

end Parts

end Items

section Padding

variable {s t : String}

/-- The same item with white space around it, or around its key and its value. -/
inductive Padded : String → String → Prop
  | item {front back : String} (hf : Text.blank front) (hb : Text.blank back) (s : String) :
      Padded s (front ++ s ++ back)
  | pair {front inner inner' back key : String} (hf : Text.blank front) (hi : Text.blank inner)
      (hi' : Text.blank inner') (hb : Text.blank back) (hk : '=' ∉ key.toList) (value : String) :
      Padded (key ++ "=" ++ value)
        ((front ++ key ++ inner) ++ "=" ++ (inner' ++ value ++ back))

theorem not_mem_of_blank {c : Char} (hc : Text.isBlank c = false) (h : Text.blank s) :
    c ∉ s.toList := by
  intro hm
  rw [all_eq_true.mp h c hm] at hc
  cases hc

theorem not_mem_append {c : Char} {w : String} (hs : c ∉ s.toList) (ht : c ∉ t.toList)
    (hw : c ∉ w.toList) : c ∉ (s ++ t ++ w).toList := by
  simp [hs, ht, hw]

structure SameItem (s t : String) : Prop where
  blank : Text.blank s = Text.blank t
  key : keyOf s = keyOf t
  value : valueOf s = valueOf t

theorem sameItem_pair {front inner inner' back key : String} (hf : Text.blank front)
    (hi : Text.blank inner) (hi' : Text.blank inner') (hb : Text.blank back)
    (hk : '=' ∉ key.toList) (value : String) : SameItem (key ++ "=" ++ value)
      ((front ++ key ++ inner) ++ "=" ++ (inner' ++ value ++ back)) := by
  have hn : '=' ∉ (front ++ key ++ inner).toList :=
    not_mem_append (not_mem_of_blank rfl hf) hk (not_mem_of_blank rfl hi)
  constructor
  case blank => rw [blank_pair, blank_pair]
  case key => rw [keyOf_pair hk, keyOf_pair hn, Text.trim_append hf hi]
  case value => rw [valueOf_pair hk, valueOf_pair hn, Text.trim_append hi' hb]

theorem Padded.sameItem (h : Padded s t) : SameItem s t := by
  cases h with
  | pair hf hi hi' hb hk value => exact sameItem_pair hf hi hi' hb hk value
  | @item front back hf hb s =>
    rcases exists_pair s with hn | ⟨key, value, hk, rfl⟩
    · have hn' : '=' ∉ (front ++ s ++ back).toList :=
        not_mem_append (not_mem_of_blank rfl hf) hn (not_mem_of_blank rfl hb)
      constructor
      case blank =>
        rw [Text.blank] at hf hb
        rw [Text.blank, Text.blank, String.toList_append, String.toList_append, all_append,
          all_append, hf, hb, Bool.true_and, Bool.and_true]
      case key => rw [keyOf_of_not_mem hn, keyOf_of_not_mem hn', Text.trim_append hf hb]
      case value => rw [valueOf_of_not_mem hn, valueOf_of_not_mem hn']
    · have hempty : Text.blank "" := rfl
      have h := sameItem_pair hf hempty hempty hb hk value
      simpa [String.append_assoc] using h

theorem parse_of_padded (h : Forall₂ Padded (Text.pieces ',' s) (Text.pieces ',' t)) :
    parse t = parse s := by
  have hs : Forall₂ SameItem (items s) (items t) :=
    rel_filter_of_eq (h.imp fun _ _ => Padded.sameItem) fun hi => congrArg not hi.blank
  have he : entries s = entries t := map_eq_of_rel hs fun hi => by rw [hi.key, hi.value]
  rw [parse_eq, parse_eq, he]

theorem parse_of_lower (h : Ascii.lower s = Ascii.lower t) : parse s = parse t := by
  rw [parse, parse, h]

end Padding

section Written

variable {s t : String} {entry : String × String}

def writtenEntry (entry : String × String) : String := entry.1 ++ "=" ++ entry.2

def written (d : Dictionary String) : String := ",".intercalate (d.map writtenEntry)

structure IsPlain (s : String) : Prop where
  trim : Text.trim s = s
  lower : Ascii.lower s = s
  comma : ',' ∉ s.toList

structure IsEntry (entry : String × String) : Prop where
  key : IsPlain entry.1
  value : IsPlain entry.2
  equals : '=' ∉ entry.1.toList

theorem isPlain_lower_trim (h : ',' ∉ s.toList) : IsPlain (Ascii.lower (Text.trim s)) where
  trim := by rw [Text.trim_lower, Text.trim_trim]
  lower := Ascii.lower_lower _
  comma := fun hm => h (Text.mem_of_mem_trim ((Text.mem_lower_iff rfl).mp hm))

theorem isEntry_of_not_mem (h : ',' ∉ s.toList) : IsEntry (keyOf s, valueOf s) := by
  have hkey : ∀ c ∈ s.toList.takeWhile (· != '='), c ∈ s.toList :=
    fun c hc => (takeWhile_sublist _).subset hc
  have hvalue : ∀ c ∈ (s.toList.dropWhile (· != '=')).drop 1, c ∈ s.toList :=
    fun c hc => (dropWhile_suffix _).subset (mem_of_mem_drop hc)
  refine ⟨isPlain_lower_trim fun hm => ?_, isPlain_lower_trim fun hm => ?_, fun hm => ?_⟩
  · rw [String.toList_ofList] at hm
    exact h (hkey _ hm)
  · rw [String.toList_ofList] at hm
    exact h (hvalue _ hm)
  · have hm' := Text.mem_of_mem_trim ((Text.mem_lower_iff rfl).mp hm)
    rw [String.toList_ofList] at hm'
    exact absurd (mem_takeWhile_imp hm') (by decide)

theorem isEntry_of_mem (h : entry ∈ parse s) : IsEntry entry := by
  rw [parse_eq, Dictionary.lasts_eq_firsts_reverse] at h
  have he := mem_reverse.mp (Dictionary.mem_of_mem_firsts h)
  obtain ⟨item, hi, rfl⟩ := mem_map.mp he
  exact isEntry_of_not_mem (Text.not_mem_of_mem_pieces (mem_of_mem_filter hi))

theorem IsEntry.comma (h : IsEntry entry) : ',' ∉ (writtenEntry entry).toList :=
  not_mem_append h.key.comma (by decide) h.value.comma

theorem IsEntry.read_written (h : IsEntry entry) :
    (keyOf (writtenEntry entry), valueOf (writtenEntry entry)) = entry := by
  rw [writtenEntry, keyOf_pair h.equals, valueOf_pair h.equals, h.key.trim, h.key.lower,
    h.value.trim, h.value.lower]

theorem entries_written {d : Dictionary String} (h : ∀ entry ∈ d, IsEntry entry) :
    entries (written d) = d := by
  by_cases hn : d = []
  · rw [hn]
    decide +kernel
  · have hpieces : Text.pieces ',' (written d) = d.map writtenEntry := by
      apply Text.pieces_intercalate rfl (by simpa using hn)
      rw [forall_mem_map]
      exact fun entry hm => (h entry hm).comma
    have hitems : items (written d) = d.map writtenEntry := by
      rw [items, hpieces, filter_eq_self, forall_mem_map]
      intro entry _
      rw [writtenEntry, blank_pair]
      rfl
    rw [entries, hitems, map_map]
    exact (map_congr_left fun entry hm => (h entry hm).read_written).trans (map_id _)

theorem parse_written (s : String) : parse (written (parse s)) = parse s := by
  have hs : Dictionary.Sorted (parse s) := by
    rw [parse_eq]
    exact Dictionary.sorted_lasts _
  rw [parse_eq (written (parse s)), entries_written fun _ => isEntry_of_mem,
    Dictionary.lasts_eq_firsts hs.nodup, hs.firsts_eq]

end Written

section Maps

variable {s t : String}

theorem parse_append (s t : String) :
    parse (s ++ "," ++ t) = Dictionary.extend (parse t) (parse s) := by
  have hentries : entries (s ++ "," ++ t) = entries s ++ entries t := by
    rw [entries, items, Text.pieces_append rfl, filter_append, map_append, entries, entries, items,
      items]
  rw [parse_eq, hentries, Dictionary.lasts_append, parse_eq, parse_eq]

theorem parse_of_perm (hp : (items s).Perm (items t)) (hn : ((items s).map keyOf).Nodup) :
    parse s = parse t := by
  have he : (entries s).Perm (entries t) := hp.map _
  have hs : ((entries s).map (·.1)).Nodup := by
    rw [entries, map_map]
    exact hn
  have ht : ((entries t).map (·.1)).Nodup := (he.map _).nodup_iff.mp hs
  rw [parse_eq, parse_eq, Dictionary.lasts_eq_firsts hs, Dictionary.lasts_eq_firsts ht,
    Dictionary.firsts_eq_of_perm hs he]

/-- Reading a declaration makes a map in which the last directive of a name counts, and which knows
neither case nor white space. -/
structure LastWins : Prop where
  append : ∀ s t : String, parse (s ++ "," ++ t) = Dictionary.extend (parse t) (parse s)
  get?_append : ∀ s t key : String, Dictionary.get? (parse (s ++ "," ++ t)) key =
    (Dictionary.get? (parse t) key).or (Dictionary.get? (parse s) key)
  lower : ∀ s t : String, Ascii.lower s = Ascii.lower t → parse s = parse t
  padded : ∀ s t : String, Forall₂ Padded (Text.pieces ',' s) (Text.pieces ',' t) →
    parse t = parse s
  parse_written : ∀ s : String, parse (written (parse s)) = parse s

theorem lastWins : LastWins where
  append := parse_append
  get?_append := fun s t key => by
    rw [parse_append, Dictionary.get?_extend]
    rfl
  lower := fun _ _ => parse_of_lower
  padded := fun _ _ => parse_of_padded
  parse_written := parse_written

end Maps

section Check

variable {ν μ : Type} [DecidableEq ν] [DecidableEq μ] {a : Adapter ν} {x : ν} {s : String}

def IsSole (a : Adapter ν) (x : ν) : Prop :=
  isViewport a x ∧ ∀ y ∈ a.siblings x, isViewport a y = false

theorem IsSole.first?_any (h : IsSole a x) : (first? a x).any (· ≠ x) = false := by
  rw [Option.any_eq_false]
  intro y hy
  obtain ⟨parent, hp, hf⟩ := Option.bind_eq_some_iff.mp hy
  have hv : isViewport a y := find?_some hf
  simp only [decide_not, Bool.not_eq_false', decide_eq_true_eq]
  by_contra hne
  have hm : y ∈ a.siblings x := by
    rw [Adapter.siblings, hp, mem_filter]
    exact ⟨mem_of_find?_eq_some hf, decide_eq_true hne⟩
  rw [h.2 y hm] at hv
  cases hv

theorem IsSole.check_eq (h : IsSole a x) (hc : a.attr x "content" = some s)
    (hb : Text.blank s = false) : check a x =
      { warnings := (parse s).flatMap fun entry => directiveWarnings entry.1 entry.2
        payload := some (.viewport (parse s)) } := by
  have hf : (a.attr x "content").filter (!Text.blank ·) = some s := by simp [hc, hb]
  rw [check, h.first?_any, hf]
  rfl

/-- Declarations are maps in which the last directive of a name counts, so the order of items with
different keys does not matter to what is said of them. -/
theorem unordered (a : Adapter ν) (b : Adapter μ) : LastWins ∧
    ∀ x y s t, IsSole a x → IsSole b y → a.attr x "content" = some s →
      b.attr y "content" = some t → Text.blank s = false → Text.blank t = false →
      (items s).Perm (items t) → ((items s).map keyOf).Nodup →
      check a x = check b y ∧ (check a x).payload = some (.viewport (parse s)) := by
  refine ⟨lastWins, fun x y s t hx hy hs ht hsb htb hp hn => ?_⟩
  rw [hx.check_eq hs hsb, hy.check_eq ht htb, parse_of_perm hp hn]
  exact ⟨rfl, rfl⟩

def declaration (content : String) : Markup.Document :=
  ⟨[.element "meta" [("name", "viewport"), ("content", content)] [] []]⟩

def someOrder : String := "Width = 320,user-scalable,, initial-scale=1=2 "

def otherOrder : String := " initial-scale=1=2 , ,Width = 320,user-scalable"

theorem unordered_otherOrder :
    check ((declaration someOrder).adapter none) [.child 0] =
        check ((declaration otherOrder).adapter none) [.child 0] ∧
      (check ((declaration someOrder).adapter none) [.child 0]).payload =
        some (.viewport [("initial-scale", "1=2"), ("user-scalable", ""), ("width", "320")]) := by
  have hx : IsSole ((declaration someOrder).adapter none) [.child 0] :=
    ⟨by decide +kernel, by decide +kernel⟩
  have hy : IsSole ((declaration otherOrder).adapter none) [.child 0] :=
    ⟨by decide +kernel, by decide +kernel⟩
  have hp : (items someOrder).Perm (items otherOrder) := by decide +kernel
  have he : entries someOrder =
      [("width", "320"), ("user-scalable", ""), ("initial-scale", "1=2")] := by
    decide +kernel
  have hd : parse someOrder =
      [("initial-scale", "1=2"), ("user-scalable", ""), ("width", "320")] := by
    rw [parse_eq, he]
    decide +kernel
  have h := (unordered ((declaration someOrder).adapter none)
    ((declaration otherOrder).adapter none)).2 _ _ someOrder otherOrder hx hy (by decide +kernel)
    (by decide +kernel) (by decide +kernel) (by decide +kernel) hp (by decide +kernel)
  rwa [hd] at h

end Check

end HeadAudit.Check.Viewport

import HeadAudit.Proofs.Markup.Locations

namespace HeadAudit.Markup

open List StartTag

namespace Located

variable {elements : List (Place × String)} {tags skipped later : List StartTag}
  {taken : Nat → Option Nat} {place : Place} {name : String} {found : StartTag} {i k n : Nat}

/-- The number `k` is behind those of all start tags that the first `i` elements take. -/
def Free (taken : Nat → Option Nat) (i k : Nat) : Prop := ∀ j < i, ∀ l, taken j = some l → l < k

structure Takes (elements : List (Place × String)) (tags : List StartTag)
    (taken : Nat → Option Nat) : Prop where
  named : ∀ i k, taken i = some k →
    ∃ place tag, elements[i]? = some (place, tag.name) ∧ tags[k]? = some tag
  increasing : ∀ i k, taken i = some k → Free taken i k
  first : ∀ i place k tag, elements[i]? = some (place, tag.name) → tags[k]? = some tag →
    Free taken i k → ∃ l ≤ k, taken i = some l

def takenBehind (n : Nat) (taken : Nat → Option Nat) : Nat → Option Nat
  | 0 => some n
  | i + 1 => (taken i).map (n + 1 + ·)

def takenWithout (taken : Nat → Option Nat) : Nat → Option Nat
  | 0 => none
  | i + 1 => taken i

theorem free_takenBehind_iff :
    Free (takenBehind n taken) (i + 1) k ↔ ∃ m, k = n + 1 + m ∧ Free taken i m := by
  constructor
  · intro h
    have hn : n < k := h 0 (Nat.succ_pos i) n rfl
    refine ⟨k - (n + 1), by omega, fun j hj l hl => ?_⟩
    have hlt := h (j + 1) (Nat.succ_lt_succ hj) (n + 1 + l) (congrArg (Option.map _) hl)
    omega
  · rintro ⟨m, rfl, h⟩ j hj l hl
    cases j with
    | zero =>
      obtain rfl : n = l := Option.some.inj hl
      omega
    | succ j =>
      obtain ⟨l', hl', rfl⟩ := Option.map_eq_some_iff.mp hl
      have hlt := h j (Nat.lt_of_succ_lt_succ hj) l' hl'
      omega

theorem free_takenWithout_iff :
    Free (takenWithout taken) (i + 1) k ↔ Free taken i k := by
  constructor
  · exact fun h j hj => h (j + 1) (Nat.succ_lt_succ hj)
  · intro h j hj l hl
    cases j with
    | zero => cases hl
    | succ j => exact h j (Nat.lt_of_succ_lt_succ hj) l hl

theorem getElem?_behind (skipped later : List StartTag) (found : StartTag) (k : Nat) :
    (skipped ++ found :: later)[skipped.length + 1 + k]? = later[k]? := by
  rw [getElem?_append_right (by omega), Nat.add_assoc, Nat.add_sub_cancel_left, Nat.add_comm 1 k,
    getElem?_cons_succ]

theorem Takes.behind (h : Takes elements later taken) (hs : ∀ tag ∈ skipped, tag.name ≠ found.name)
    (place : Place) : Takes ((place, found.name) :: elements) (skipped ++ found :: later)
      (takenBehind skipped.length taken) := by
  constructor
  case named =>
    intro i k hk
    cases i with
    | zero =>
      obtain rfl := Option.some.inj hk
      refine ⟨place, found, rfl, ?_⟩
      rw [getElem?_append_right le_rfl, Nat.sub_self, getElem?_cons_zero]
    | succ i =>
      obtain ⟨m, hm, rfl⟩ := Option.map_eq_some_iff.mp hk
      obtain ⟨p, tag, hp, ht⟩ := h.named i m hm
      exact ⟨p, tag, hp, (getElem?_behind skipped later found m).trans ht⟩
  case increasing =>
    intro i k hk
    cases i with
    | zero => exact fun j hj => absurd hj (Nat.not_lt_zero j)
    | succ i =>
      obtain ⟨m, hm, rfl⟩ := Option.map_eq_some_iff.mp hk
      exact free_takenBehind_iff.mpr ⟨m, rfl, h.increasing i m hm⟩
  case first =>
    intro i p k tag hp ht hfree
    cases i with
    | zero =>
      refine ⟨skipped.length, Nat.le_of_not_lt fun hlt => ?_, rfl⟩
      rw [getElem?_append_left hlt] at ht
      have hname : found.name = tag.name := congrArg Prod.snd (Option.some.inj hp)
      exact hs tag (mem_of_getElem? ht) hname.symm
    | succ i =>
      obtain ⟨m, rfl, hm⟩ := free_takenBehind_iff.mp hfree
      rw [getElem?_behind] at ht
      obtain ⟨l, hl, htaken⟩ := h.first i p m tag hp ht hm
      exact ⟨skipped.length + 1 + l, by omega, congrArg (Option.map _) htaken⟩

theorem Takes.without (h : Takes elements tags taken) (hn : ∀ tag ∈ tags, tag.name ≠ name)
    (place : Place) : Takes ((place, name) :: elements) tags (takenWithout taken) := by
  constructor
  case named =>
    intro i k hk
    cases i with
    | zero => cases hk
    | succ i => exact h.named i k hk
  case increasing =>
    intro i k hk
    cases i with
    | zero => cases hk
    | succ i => exact free_takenWithout_iff.mpr (h.increasing i k hk)
  case first =>
    intro i p k tag hp ht hfree
    cases i with
    | zero =>
      cases hp
      exact absurd rfl (hn tag (mem_of_getElem? ht))
    | succ i => exact h.first i p k tag hp ht (free_takenWithout_iff.mp hfree)

theorem lookup_pair_of_not_mem (h : place ∉ elements.map (·.1)) :
    (pair elements tags).lookup place = none := by
  rw [lookup_eq_none_iff]
  rintro ⟨p, tag⟩ hp
  have hmem : p ∈ elements.map (·.1) := mem_map.mpr ⟨_, (mem_of_mem_pair hp).1, rfl⟩
  rw [bne_iff_ne]
  rintro rfl
  exact h hmem

theorem exists_takes (hn : (elements.map (·.1)).Nodup) (tags : List StartTag) :
    ∃ taken, Takes elements tags taken ∧ ∀ i place name, elements[i]? = some (place, name) →
      (pair elements tags).lookup place = (taken i).bind (tags[·]?) := by
  induction elements generalizing tags with
  | nil => exact ⟨fun _ => none, ⟨nofun, nofun, nofun⟩, nofun⟩
  | cons e elements ih =>
    obtain ⟨p, name⟩ := e
    obtain ⟨hp, hrest⟩ := nodup_cons.mp hn
    have hne : ∀ (i : Nat) place name, elements[i]? = some (place, name) → place ≠ p := by
      rintro i place name he rfl
      exact hp (mem_map.mpr ⟨_, mem_of_getElem? he, rfl⟩)
    -- The next tag of the name is taken, or there is none left.
    rcases exists_split tags name with hnone | ⟨skipped, found, later, rfl, rfl, hs⟩
    · obtain ⟨taken, htaken, hlookup⟩ := ih hrest tags
      refine ⟨takenWithout taken, htaken.without hnone p, fun i place name' he => ?_⟩
      rw [pair_of_not_mem hnone]
      cases i with
      | zero =>
        cases he
        exact lookup_pair_of_not_mem hp
      | succ i => exact hlookup i place name' he
    · obtain ⟨taken, htaken, hlookup⟩ := ih hrest later
      refine ⟨takenBehind skipped.length taken, htaken.behind hs p, fun i place name' he => ?_⟩
      rw [pair_behind hs]
      cases i with
      | zero =>
        cases he
        rw [lookup_cons_self, takenBehind, Option.bind_some, getElem?_append_right le_rfl,
          Nat.sub_self, getElem?_cons_zero]
      | succ i =>
        have hbehind : ((taken i).map (skipped.length + 1 + ·)).bind
            ((skipped ++ found :: later)[·]?) = (taken i).bind (later[·]?) := by
          simp only [Option.bind_map, Function.comp_def, getElem?_behind]
        rw [lookup_cons, beq_false_of_ne (hne i place name' he), hlookup i place name' he,
          takenBehind, hbehind]

def Spans (source : String) (tag : StartTag) (l : Location) : Prop :=
  ∃ front body back, source.toList = front ++ '<' :: (body ++ '>' :: back) ∧
    tag.start = width front ∧ tag.stop = width (front ++ '<' :: body) ∧
    (l.line, l.column) = Position.lineColumn front ∧
    l.endLine? = some (Position.lineColumn (front ++ '<' :: body)).1 ∧
    l.endColumn? = some (Position.lineColumn (front ++ '<' :: body)).2

theorem spans_location {source : String} {tag : StartTag} (h : tag ∈ scan source) :
    Spans source tag (location source tag) := by
  obtain ⟨front, tagName, attrs, back, hw⟩ := exists_isWritten h
  have hsource : source.toList = front ++ '<' :: (tagName ++ attrs ++ '>' :: back) := hw.source
  have hbehind : source.toList = (front ++ '<' :: (tagName ++ attrs)) ++ '>' :: back :=
    hw.source.trans (append_assoc _ _ _).symm
  refine ⟨front, tagName ++ attrs, back, hsource, ?_⟩
  rw [hw.tag]
  refine ⟨rfl, rfl, Position.of_width hsource, ?_, ?_⟩ <;> rw [← Position.of_width hbehind] <;> rfl

/-- The elements of a document in the order of their start tags, and what the table tells of each:
`taken` has the number of the start tag that the element comes from. -/
structure InOrder (d : Document) (source : String) (taken : Nat → Option Nat) : Prop where
  listed : ∀ place name, (place, name) ∈ d.elements ↔ (d.get? place).bind Node.tag? = some name
  nodup : (d.elements.map (·.1)).Nodup
  takes : Takes d.elements (scan source) taken
  located : ∀ i k place name tag, d.elements[i]? = some (place, name) → taken i = some k →
    (scan source)[k]? = some tag →
      ∃ l, (table d source).lookup place = some l ∧ Spans source tag l
  unlocated : ∀ i place name, d.elements[i]? = some (place, name) → taken i = none →
    (table d source).lookup place = none

theorem InOrder.of_takes {d : Document} {source : String}
    (h : Takes d.elements (scan source) taken)
    (hlookup : ∀ i place name, d.elements[i]? = some (place, name) →
      (pair d.elements (scan source)).lookup place = (taken i).bind ((scan source)[·]?)) :
    InOrder d source taken := by
  constructor
  case listed =>
    exact fun place name => ⟨Document.get?_of_mem_elements, Document.mem_elements_of_get?⟩
  case nodup => exact d.nodup_places
  case takes => exact h
  case located =>
    intro i k place name tag he hk ht
    refine ⟨location source tag, ?_, spans_location (mem_of_getElem? ht)⟩
    rw [lookup_table, hlookup i place name he, hk, Option.bind_some, ht, Option.map_some]
  case unlocated =>
    intro i place name he hk
    rw [lookup_table, hlookup i place name he, hk, Option.bind_none, Option.map_none]

/-- Whatever the document and the source have to do with each other, the elements that have a
location take start tags in their order. -/
theorem exists_inOrder (d : Document) (source : String) : ∃ taken, InOrder d source taken := by
  obtain ⟨taken, htakes, hlookup⟩ := exists_takes d.nodup_places (scan source)
  exact ⟨taken, .of_takes htakes hlookup⟩

end Located

end HeadAudit.Markup

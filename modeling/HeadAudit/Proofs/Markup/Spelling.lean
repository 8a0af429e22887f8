import HeadAudit.Proofs.Markup.Assignment

namespace HeadAudit.Markup

open List StartTag

namespace Located

variable {elements : List (Place × String)} {tags : List StartTag} {taken : Nat → Option Nat}
  {d : Document} {source : String} {place : Place} {name : String} {tag : StartTag} {i : Nat}

/-- Each element has a start tag with its name in small letters, in the same order. -/
def SameNames (elements : List (Place × String)) (tags : List StartTag) : Prop :=
  (elements.map fun e => Ascii.lower e.2) = tags.map (·.name)

def OneSpelling (elements : List (Place × String)) : Prop :=
  ∀ e ∈ elements, ∀ e' ∈ elements, Ascii.lower e.2 = e'.2 → e.2 = e'.2

theorem name_unique {p : Place} {other : String} (he : elements[i]? = some (place, name))
    (hp : elements[i]? = some (p, other)) : name = other :=
  congrArg Prod.snd (Option.some.inj (he.symm.trans hp))

theorem SameNames.exists_tag (h : SameNames elements tags)
    (he : elements[i]? = some (place, name)) :
    ∃ tag, tags[i]? = some tag ∧ tag.name = Ascii.lower name := by
  have hi := congrArg (·[i]?) h
  simp only [getElem?_map, he, Option.map_some] at hi
  exact Option.map_eq_some_iff.mp hi.symm

theorem SameNames.exists_element (h : SameNames elements tags) (ht : tags[i]? = some tag) :
    ∃ place name, elements[i]? = some (place, name) ∧ Ascii.lower name = tag.name := by
  have hi := congrArg (·[i]?) h
  simp only [getElem?_map, ht, Option.map_some] at hi
  obtain ⟨⟨place, name⟩, he, hn⟩ := Option.map_eq_some_iff.mp hi
  exact ⟨place, name, he, hn⟩

namespace Takes

theorem eq_none (h : Takes elements tags taken) (hsame : SameNames elements tags)
    (he : elements[i]? = some (place, name)) (hl : Ascii.lower name ≠ name) : taken i = none := by
  cases hk : taken i with
  | none => rfl
  | some k =>
    obtain ⟨p, tag, hp, ht⟩ := h.named i k hk
    obtain ⟨q, other, -, hn⟩ := hsame.exists_element ht
    exact absurd (by rw [name_unique he hp, ← hn, Ascii.lower_lower]) hl

/-- What is taken before an element comes before the tag with the number of the element. -/
theorem eq_some (h : Takes elements tags taken) (hsame : SameNames elements tags)
    (hone : OneSpelling elements) (he : elements[i]? = some (place, name))
    (hl : Ascii.lower name = name) : taken i = some i := by
  induction i using Nat.strong_induction_on generalizing place name with
  | _ i ih =>
    have hfree : Free taken i i := by
      intro j hj l htaken
      obtain ⟨p, tag, hp, -⟩ := h.named j l htaken
      by_cases hlj : Ascii.lower tag.name = tag.name
      · obtain rfl := Option.some.inj (htaken.symm.trans (ih j hj hp hlj))
        exact hj
      · exact absurd (htaken.symm.trans (h.eq_none hsame hp hlj)) nofun
    obtain ⟨tag, ht, hn⟩ := hsame.exists_tag he
    obtain ⟨k, hk, htaken⟩ := h.first i place i tag (by rw [he, hn, hl]) ht hfree
    obtain rfl | hlt := hk.eq_or_lt
    · exact htaken
    · -- The tag `k` would be that of an element before, which has the same name.
      obtain ⟨p, found, hp, hfound⟩ := h.named i k htaken
      obtain ⟨q, other, hq, hother⟩ := hsame.exists_element hfound
      have hname : name = found.name := name_unique he hp
      have hsplit : other = found.name :=
        hone _ (mem_of_getElem? hq) _ (mem_of_getElem? hp) hother
      have hbefore := ih k hlt hq (hother.trans hsplit.symm)
      exact absurd (h.increasing i k htaken k hlt k hbefore) (lt_irrefl k)

end Takes

def LocatesAt (d : Document) (source : String) (place : Place) (i : Nat) : Prop :=
  ∃ tag l, (scan source)[i]? = some tag ∧ (table d source).lookup place = some l ∧
    Spans source tag l

def LocatesEach (d : Document) (source : String) : Prop :=
  ∀ (i : Nat) place name, d.elements[i]? = some (place, name) → LocatesAt d source place i

/-- What is located where each element has a start tag. -/
structure LocatesLowered (d : Document) (source : String) : Prop where
  locatesEach_iff : LocatesEach d source ↔ ∀ e ∈ d.elements, Ascii.lower e.2 = e.2
  unlocated : ∀ e ∈ d.elements, Ascii.lower e.2 ≠ e.2 → (table d source).lookup e.1 = none
  located : OneSpelling d.elements → ∀ (i : Nat) place name,
    d.elements[i]? = some (place, name) → Ascii.lower name = name → LocatesAt d source place i

/-- Where the names of elements are those of start tags, capital letters apart, the elements without
capital letters in their names have their locations. -/
theorem locatesLowered_of_sameNames (d : Document) (source : String)
    (h : SameNames d.elements (scan source)) : LocatesLowered d source := by
  obtain ⟨taken, htakes, hlookup⟩ := exists_takes d.nodup_places (scan source)
  have htaken := InOrder.of_takes htakes hlookup
  have hunlocated : ∀ e ∈ d.elements, Ascii.lower e.2 ≠ e.2 →
      (table d source).lookup e.1 = none := by
    rintro ⟨place, name⟩ hm hl
    obtain ⟨i, he⟩ := getElem?_of_mem hm
    exact htaken.unlocated i place name he (htakes.eq_none h he hl)
  have hlocated : OneSpelling d.elements → ∀ (i : Nat) place name,
      d.elements[i]? = some (place, name) → Ascii.lower name = name →
        LocatesAt d source place i := by
    intro hone i place name he hl
    obtain ⟨tag, ht, -⟩ := h.exists_tag he
    obtain ⟨l, hlookup, hspans⟩ := htaken.located i i place name tag he
      (htakes.eq_some h hone he hl) ht
    exact ⟨tag, l, ht, hlookup, hspans⟩
  refine ⟨⟨fun heach e hm => ?_, fun hall i place name he => ?_⟩, hunlocated, hlocated⟩
  · obtain ⟨i, he⟩ := getElem?_of_mem hm
    obtain ⟨tag, l, -, hlookup, -⟩ := heach i e.1 e.2 he
    by_contra hl
    exact absurd (hlookup.symm.trans (hunlocated e hm hl)) nofun
  · refine hlocated (fun e hm e' _ hl => ?_) i place name he (hall _ (mem_of_getElem? he))
    exact (hall e hm).symm.trans hl

def drawing : String := "<html><head></head><body><svg><linearGradient><g>"

theorem elements_drawing : (Document.parse drawing).elements =
    [([.child 0], "html"), ([.child 0, .child 0], "head"), ([.child 1, .child 0], "body"),
      ([.child 0, .child 1, .child 0], "svg"),
      ([.child 0, .child 0, .child 1, .child 0], "linearGradient"),
      ([.child 0, .child 0, .child 0, .child 1, .child 0], "g")] := by decide +kernel

theorem sameNames_drawing : SameNames (Document.parse drawing).elements (scan drawing) := by
  rw [elements_drawing, SameNames]
  decide +kernel

theorem locatesLowered_of_sameNames_drawing :
    SameNames (Document.parse drawing).elements (scan drawing) ∧
      OneSpelling (Document.parse drawing).elements ∧
      (table (Document.parse drawing) drawing).lookup [.child 0, .child 0, .child 1, .child 0] =
        none ∧
      LocatesAt (Document.parse drawing) drawing
        [.child 0, .child 0, .child 0, .child 1, .child 0] 5 := by
  have hone : OneSpelling (Document.parse drawing).elements := by
    rw [elements_drawing, OneSpelling]
    decide +kernel
  have h := locatesLowered_of_sameNames (Document.parse drawing) drawing sameNames_drawing
  refine ⟨sameNames_drawing, hone, ?_, ?_⟩
  · refine h.unlocated ([.child 0, .child 0, .child 1, .child 0], "linearGradient") ?_
      (by decide +kernel)
    rw [elements_drawing]
    exact mem_of_getElem? (i := 4) rfl
  · exact h.located hone 5 _ "g" (by rw [elements_drawing]; rfl) (by decide +kernel)

/-- The parser writes the name of the gradient with a capital letter, the scanner does not. -/
theorem not_locatesEach_drawing :
    ¬ ∀ d source, SameNames d.elements (scan source) → LocatesEach d source := by
  intro h
  obtain ⟨tag, l, -, hl, -⟩ := h (Document.parse drawing) drawing sameNames_drawing 4
    [.child 0, .child 0, .child 1, .child 0] "linearGradient" (by rw [elements_drawing]; rfl)
  have hnone : (table (Document.parse drawing) drawing).lookup
      [.child 0, .child 0, .child 1, .child 0] = none := by
    rw [table_eq, elements_drawing]
    decide +kernel
  exact absurd (hl.symm.trans hnone) nofun

end Located

end HeadAudit.Markup

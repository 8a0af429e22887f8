import HeadAudit.Markup.Page
import HeadAudit.Proofs.Markup.Lines
import HeadAudit.Proofs.Markup.Visits
import HeadAudit.Proofs.Parity.Copy

namespace HeadAudit.Markup

open List StartTag

def slice (source : String) (l : Location) : String :=
  let opening := Position.textFrom l.line l.column source.toList
  let closing := Position.textFrom l.endLine l.endColumn source.toList
  String.ofList (opening.take (opening.length - closing.length + 1))

section Slices

variable {source : String} {front body back : List Char} {tag : StartTag}

theorem slice_location (h : source.toList = front ++ (body ++ '>' :: back)) (name : String) :
    slice source (Located.location source ⟨name, width front, width (front ++ body)⟩) =
      String.ofList (body ++ ['>']) := by
  have hbody : source.toList = (front ++ body) ++ '>' :: back := h.trans (append_assoc _ _ _).symm
  have htake : (body ++ '>' :: back).take (body.length + 1) = body ++ ['>'] := by
    rw [take_length_add_append]
    rfl
  rw [slice, Located.location, Location.endLine, Location.endColumn]
  dsimp only [Option.getD_some]
  rw [Position.textFrom_of h, Position.textFrom_of hbody, length_append, Nat.add_sub_cancel, htake]

structure IsWritten (source : String) (tag : StartTag) (front name attrs back : List Char) :
    Prop where
  source : source.toList = front ++ ('<' :: (name ++ attrs) ++ '>' :: back)
  isName : IsName name
  balanced : Balanced attrs
  tag : tag = ⟨String.ofList (name.map Char.toLower), width front,
    width (front ++ '<' :: (name ++ attrs))⟩

theorem exists_isWritten (h : tag ∈ scan source) :
    ∃ front name attrs back, IsWritten source tag front name attrs back := by
  obtain ⟨read, hr, rfl⟩ := mem_map.mp h
  obtain ⟨ht, front, hf⟩ := isTag_of_mem_search hr
  obtain ⟨name, attrs, back, hn, hb, hname, ho, hc⟩ := ht.exists_balanced
  have hbody : source.toList = (front ++ '<' :: (name ++ attrs)) ++ '>' :: back := by
    rw [← hf, ho, append_assoc]
  refine ⟨front, name, attrs, back, ho ▸ hf.symm, hn, hb, ?_⟩
  rw [hname, hc]
  congr 1
  · rw [← hf, width_append, Nat.add_sub_cancel]
  · rw [hbody, width_append _ ('>' :: back), Nat.add_sub_cancel]

theorem IsWritten.slice {name attrs : List Char} (h : IsWritten source tag front name attrs back) :
    Markup.slice source (Located.location source tag) =
      String.ofList ('<' :: (name ++ attrs) ++ ['>']) := by
  rw [h.tag]
  exact slice_location h.source _

/-- What the scanner finds is found in the same way where it stands alone. -/
theorem IsWritten.scan_slice {name attrs : List Char}
    (h : IsWritten source tag front name attrs back) :
    scan (Markup.slice source (Located.location source tag)) =
      [⟨tag.name, 0, (Markup.slice source (Located.location source tag)).utf8ByteSize - 1⟩] := by
  have hrest : found (afterContent (String.ofList (name.map Char.toLower)) []) = [] := by
    rw [suffix_nil.mp (afterContent_suffix (String.ofList (name.map Char.toLower)) [])]
    rfl
  have hw : width ('<' :: (name ++ attrs) ++ ['>']) = width ('<' :: (name ++ attrs)) + 1 :=
    width_append _ _
  rw [h.slice, scan_eq, String.toList_ofList, scanFrom, found_of_balanced h.isName h.balanced,
    hrest, ← width_toList, String.toList_ofList, hw, h.tag]
  simp only [map_cons, map_nil, Nat.zero_add, hw, Nat.sub_self]
  rfl

end Slices

namespace Document

theorem get?_content (d : Document) (place : Place) (i : Nat) :
    d.get? (.content i :: place) = (d.get? place).bind fun n => n.template[i]? := by
  cases place <;> rfl

mutual

theorem get?_of_mem_elementsOf {d : Document} {place p : Place} {name : String} :
    (n : Node) → d.get? place = some n → (p, name) ∈ elementsOf place n →
      (d.get? p).bind Node.tag? = some name
  | .element tag attrs children template, hn, hp => by
    rw [elementsOf, mem_cons, mem_append] at hp
    rcases hp with hp | hp | hp
    · cases hp
      rw [hn]
      rfl
    · refine get?_of_mem_elementsUnder template (fun j m hm => ?_) hp
      rwa [get?_content, hn, Option.bind_some, Nat.zero_add]
    · refine get?_of_mem_elementsUnder children (fun j m hm => ?_) hp
      rwa [get?_child, below_of_get? hn, Nat.zero_add]
  | .text _, _, hp | .comment _, _, hp | .doctype _, _, hp => by cases hp

theorem get?_of_mem_elementsUnder {d : Document} {step : Nat → Step} {outer p : Place} {i : Nat}
    {name : String} : (ns : List Node) →
      (∀ j m, ns[j]? = some m → d.get? (step (i + j) :: outer) = some m) →
      (p, name) ∈ elementsUnder step outer i ns → (d.get? p).bind Node.tag? = some name
  | [], _, hp => by cases hp
  | n :: ns, hn, hp => by
    rw [elementsUnder, mem_append] at hp
    rcases hp with hp | hp
    · exact get?_of_mem_elementsOf n (hn 0 n rfl) hp
    · refine get?_of_mem_elementsUnder ns (fun j m hm => ?_) hp
      rw [Nat.add_assoc, Nat.add_comm 1 j]
      exact hn (j + 1) m hm

end

theorem get?_of_mem_elements {d : Document} {place : Place} {name : String}
    (h : (place, name) ∈ d.elements) : (d.get? place).bind Node.tag? = some name := by
  refine get?_of_mem_elementsUnder d.nodes (fun j n hn => ?_) h
  rwa [get?_child, Nat.zero_add]

end Document

namespace Located

variable {elements : List (Place × String)} {tags skipped later : List StartTag} {place : Place}
  {tag found : StartTag} {name : String}

theorem exists_split (tags : List StartTag) (name : String) : (∀ tag ∈ tags, tag.name ≠ name) ∨
    ∃ skipped found later, tags = skipped ++ found :: later ∧ found.name = name ∧
      ∀ tag ∈ skipped, tag.name ≠ name := by
  have hskipped : ∀ tag ∈ tags.takeWhile (·.name != name), tag.name ≠ name :=
    fun tag ht => by simpa using mem_takeWhile_imp ht
  have htags := tags.takeWhile_append_dropWhile (p := (·.name != name))
  cases hd : tags.dropWhile (·.name != name) with
  | nil =>
    rw [hd, append_nil] at htags
    exact .inl (htags ▸ hskipped)
  | cons found later =>
    have hfound := head?_dropWhile_not (fun t : StartTag => t.name != name) tags
    rw [hd] at htags hfound
    exact .inr ⟨_, found, later, htags.symm, by simpa using hfound, hskipped⟩

theorem pair_of_not_mem (h : ∀ tag ∈ tags, tag.name ≠ name) :
    pair ((place, name) :: elements) tags = pair elements tags := by
  have hd : tags.dropWhile (·.name != name) = [] := by
    rw [dropWhile_eq_nil_iff]
    exact fun tag ht => by simpa using h tag ht
  rw [pair, hd]

theorem pair_behind (hs : ∀ tag ∈ skipped, tag.name ≠ found.name) :
    pair ((place, found.name) :: elements) (skipped ++ found :: later) =
      (place, found) :: pair elements later := by
  have hd : (skipped ++ found :: later).dropWhile (·.name != found.name) = found :: later := by
    rw [dropWhile_append_of_pos fun tag ht => by simpa using hs tag ht,
      dropWhile_cons_of_neg (by simp)]
  rw [pair, hd]

theorem mem_of_mem_pair (h : (place, tag) ∈ pair elements tags) :
    (place, tag.name) ∈ elements ∧ tag ∈ tags := by
  induction elements generalizing tags with
  | nil => cases h
  | cons e elements ih =>
    obtain ⟨first, name⟩ := e
    rcases exists_split tags name with hnone | ⟨skipped, found, later, rfl, rfl, hs⟩
    · rw [pair_of_not_mem hnone] at h
      exact ⟨mem_cons_of_mem _ (ih h).1, (ih h).2⟩
    · rw [pair_behind hs] at h
      rcases mem_cons.mp h with h | h
      · cases h
        exact ⟨mem_cons_self, mem_append_right _ mem_cons_self⟩
      · exact ⟨mem_cons_of_mem _ (ih h).1, mem_append_right _ (mem_cons_of_mem _ (ih h).2)⟩

theorem lookup_table (d : Document) (source : String) (place : Place) :
    (table d source).lookup place =
      ((pair d.elements (scan source)).lookup place).map (location source) := by
  rw [table_eq]
  induction pair d.elements (scan source) with
  | nil => rfl
  | cons e pairs ih =>
    rw [map_cons, lookup_cons, lookup_cons, ih]
    cases place == e.1 <;> rfl

theorem mem_pair_of_lookup {d : Document} {source : String} {l : Location}
    (h : (table d source).lookup place = some l) :
    ∃ tag, (place, tag) ∈ pair d.elements (scan source) ∧ l = location source tag := by
  rw [lookup_table] at h
  obtain ⟨tag, ht, rfl⟩ := Option.map_eq_some_iff.mp h
  obtain ⟨before, behind, hp, -⟩ := lookup_eq_some_iff.mp ht
  exact ⟨tag, hp ▸ mem_append_right before mem_cons_self, rfl⟩

theorem lookup_isSome {d : Document} {source : String}
    (h : (place, tag) ∈ pair d.elements (scan source)) :
    ((table d source).lookup place).isSome = true := by
  rw [lookup_table, Option.isSome_map, Option.isSome_iff_ne_none, ne_eq, lookup_eq_none_iff]
  intro hnone
  simpa using hnone _ h

theorem pair_cons (h : tag.name = name) :
    pair ((place, name) :: elements) (tag :: tags) = (place, tag) :: pair elements tags := by
  subst h
  exact pair_behind (forall_mem_nil _)

theorem pair_nil (elements : List (Place × String)) : pair elements [] = [] := by
  induction elements with
  | nil => rfl
  | cons e elements ih => exact ih

theorem pair_append
    (h : Forall₂ (fun (e : Place × String) (tag : StartTag) => tag.name = e.2) elements tags)
    (latter : List (Place × String)) :
    pair (elements ++ latter) tags = (elements.zip tags).map fun (e, tag) => (e.1, tag) := by
  induction h with
  | nil => exact pair_nil latter
  | @cons e tag elements tags hn _ ih =>
    rw [cons_append, pair_cons hn, ih]
    rfl

end Located

namespace Page

theorem location_eq_lookup (source : String) (place : Place) :
    (parse source).adapter.location place =
      (Located.table (Document.parse source) source).lookup place := by
  have h (p : Page) : p.adapter.location place = p.locations.lookup place := rfl
  rw [h, parse]

/-- Where an element is said to stand there is a start tag with its name. -/
theorem location_eq_some {source : String} {place : Place} {l : Location}
    (h : (parse source).adapter.location place = some l) :
    ∃ name, ((parse source).document.get? place).bind Node.tag? = some name ∧
      scan (slice source l) = [⟨name, 0, (slice source l).utf8ByteSize - 1⟩] := by
  rw [location_eq_lookup] at h
  obtain ⟨tag, hp, rfl⟩ := Located.mem_pair_of_lookup h
  obtain ⟨he, ht⟩ := Located.mem_of_mem_pair hp
  obtain ⟨front, name, attrs, back, hw⟩ := exists_isWritten ht
  exact ⟨tag.name, Document.get?_of_mem_elements he, hw.scan_slice⟩

def firstInHead? (p : Page) : Option Node :=
  (p.document.children p.head).head?.bind p.document.get?

/-- Every element in the head that has a location has that of its own start tag: the text there
reads as an element with the same name and the same attributes. -/
def LocatesOwn (source : String) : Prop :=
  ∀ place ∈ (parse source).document.children (parse source).head, ∀ l,
    (parse source).adapter.location place = some l →
      ∃ n m, (parse source).document.get? place = some n ∧
        (parse (slice source l)).firstInHead? = some m ∧ m.tag? = n.tag? ∧ m.attrs = n.attrs

/-- The head is made for the first tag, and takes the place of the second one. -/
theorem not_locatesOwn_strayHead : ¬LocatesOwn "<meta name=a><head><meta name=b>" := by
  intro h
  have hl := h [.child 0, .child 0, .child 0] (by decide +kernel) ⟨1, 20, some 1, some 32⟩
    (by decide +kernel)
  have hs : slice "<meta name=a><head><meta name=b>" ⟨1, 20, some 1, some 32⟩ =
      "<meta name=b>" := by
    decide +kernel
  rw [hs] at hl
  obtain ⟨n, m, hn, hm, -, ha⟩ := hl
  have hattrs : ((parse "<meta name=a><head><meta name=b>").document.get?
      [.child 0, .child 0, .child 0]).map Node.attrs = some [("name", "a")] := by decide +kernel
  have hattrs' : (parse "<meta name=b>").firstInHead?.map Node.attrs = some [("name", "b")] := by
    decide +kernel
  rw [hn, Option.map_some, Option.some.injEq] at hattrs
  rw [hm, Option.map_some, Option.some.injEq, ha, hattrs] at hattrs'
  exact absurd hattrs' (by decide)

end Page

end HeadAudit.Markup

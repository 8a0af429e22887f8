import HeadAudit.Markup.View
import HeadAudit.Proofs.Markup.Layout
import HeadAudit.Proofs.Text.Codes
import HeadAudit.Report

namespace HeadAudit

open List

namespace Written

variable {c d : Char} {s u : List Char} {name other v w : String}

/-- Where one character ends and which it is can be seen from what it is written as. -/
theorem attributeChar_append_inj (h : attributeChar c ++ s = attributeChar d ++ u) :
    c = d ∧ s = u := by
  simp only [attributeChar, beq_iff_eq] at h
  split_ifs at h <;> simp_all [eq_comm]

theorem exists_attributeChar (c : Char) : ∃ d cs, attributeChar c = d :: cs ∧ d ≠ '"' := by
  have hq := quote_not_mem_attributeChar c
  cases hc : attributeChar c with
  | nil =>
    simp only [attributeChar, beq_iff_eq] at hc
    split_ifs at hc <;> cases hc
  | cons d cs => exact ⟨d, cs, rfl, fun he => hq (by rw [hc, he]; exact mem_cons_self)⟩

theorem attributeValue_append_inj
    (h : (attributeValue v).toList ++ '"' :: s = (attributeValue w).toList ++ '"' :: u) :
    v = w ∧ s = u := by
  rw [attributeValue, attributeValue, String.toList_ofList, String.toList_ofList] at h
  obtain ⟨hv, hs⟩ := flatMap_inj_of_stop (P := fun _ => True)
    (fun c _ => exists_attributeChar c) (fun _ _ => attributeChar_append_inj)
    (fun _ _ => trivial) (fun _ _ => trivial) h
  exact ⟨String.toList_inj.mp hv, hs⟩

/-- The first `=` ends the name, and the first quote behind it ends the value. -/
theorem attr_append_inj (hn : '=' ∉ name.toList) (ho : '=' ∉ other.toList)
    (h : (attr name (some v)).toList ++ s = (attr other (some w)).toList ++ u) :
    name = other ∧ v = w ∧ s = u := by
  simp only [toList_attr, Option.map_some, Option.getD_some, append_assoc, cons_append,
    nil_append, cons.injEq, true_and] at h
  obtain ⟨hname, hrest⟩ := append_inj_of_all (p := (· ≠ '='))
    (fun c hc => decide_eq_true fun he => hn (he ▸ hc))
    (fun c hc => decide_eq_true fun he => ho (he ▸ hc)) (by simp) (by simp) h
  obtain ⟨rfl, rfl⟩ := attributeValue_append_inj (cons.inj (cons.inj hrest).2).2
  exact ⟨String.toList_inj.mp hname, rfl, rfl⟩

def entry (e : String × Option String) : List Char := (attr e.1 e.2).toList

theorem exists_entry (e : String × Option String) : ∃ cs, entry e = ' ' :: cs :=
  ⟨_, toList_attr e.1 e.2⟩

theorem entry_append_inj {e e' : String × Option String}
    (he : '=' ∉ e.1.toList ∧ e.2.isSome) (he' : '=' ∉ e'.1.toList ∧ e'.2.isSome)
    (h : entry e ++ s = entry e' ++ u) : e = e' ∧ s = u := by
  obtain ⟨name, value⟩ := e
  obtain ⟨other, value'⟩ := e'
  obtain ⟨v, rfl⟩ := Option.isSome_iff_exists.mp he.2
  obtain ⟨w, rfl⟩ := Option.isSome_iff_exists.mp he'.2
  obtain ⟨rfl, rfl, rfl⟩ := attr_append_inj he.1 he'.1 h
  exact ⟨rfl, rfl⟩

theorem toList_openTag (tag : String) (attrs : List (String × Option String)) :
    (openTag tag attrs).toList = '<' :: (tag.toList ++ (attrs.flatMap entry ++ ['>'])) := by
  simp only [openTag, String.toList_append, toList_concat, flatMap_map, append_assoc]
  rfl

theorem head?_entries {attrs : List (String × Option String)} :
    ∀ c ∈ (attrs.flatMap entry ++ ['>']).head?, c = ' ' ∨ c = '>' := by
  intro c hc
  cases attrs with
  | nil =>
    cases hc
    exact .inr rfl
  | cons e attrs =>
    obtain ⟨cs, he⟩ := exists_entry e
    rw [flatMap_cons, he] at hc
    cases hc
    exact .inl rfl

/-- The first space or bracket ends the tag, and a bracket for a space ends the attributes. -/
theorem openTag_inj {tag tag' : String} {attrs attrs' : List (String × Option String)}
    (ht : ' ' ∉ tag.toList ∧ '>' ∉ tag.toList) (ht' : ' ' ∉ tag'.toList ∧ '>' ∉ tag'.toList)
    (ha : ∀ e ∈ attrs, '=' ∉ e.1.toList ∧ e.2.isSome)
    (ha' : ∀ e ∈ attrs', '=' ∉ e.1.toList ∧ e.2.isSome)
    (h : openTag tag attrs = openTag tag' attrs') : tag = tag' ∧ attrs = attrs' := by
  have hend : ∀ {attrs : List (String × Option String)},
      ∀ c ∈ (attrs.flatMap entry ++ ['>']).head?, decide (c ≠ ' ' ∧ c ≠ '>') = false := by
    intro attrs c hc
    exact decide_eq_false fun hne => (head?_entries c hc).elim hne.1 hne.2
  have hbefore : ∀ {tag : String}, ' ' ∉ tag.toList ∧ '>' ∉ tag.toList →
      ∀ c ∈ tag.toList, decide (c ≠ ' ' ∧ c ≠ '>') = true := by
    intro tag ht c hc
    exact decide_eq_true ⟨fun he => ht.1 (he ▸ hc), fun he => ht.2 (he ▸ hc)⟩
  have hlist := congrArg String.toList h
  rw [toList_openTag, toList_openTag] at hlist
  obtain ⟨htag, hrest⟩ :=
    append_inj_of_all (hbefore ht) (hbefore ht') hend hend (cons.inj hlist).2
  have hstop : ∀ e : String × Option String, ∃ c cs, entry e = c :: cs ∧ c ≠ '>' := by
    intro e
    obtain ⟨cs, he⟩ := exists_entry e
    exact ⟨' ', cs, he, by decide⟩
  obtain ⟨hattrs, -⟩ := flatMap_inj_of_stop (fun e _ => hstop e) entry_append_inj ha ha' hrest
  exact ⟨String.toList_inj.mp htag, hattrs⟩

end Written

namespace Adapter

variable {ν μ : Type} {a : Adapter ν} {b : Adapter μ} {x : ν} {y : μ}

/-- An element whose names cannot be taken for what ends them. Its values are any text. -/
structure Legible (a : Adapter ν) (x : ν) : Prop where
  isElement : a.isElement x
  tagName : ' ' ∉ (a.tagName x).toList ∧ '>' ∉ (a.tagName x).toList
  attrNames : ∀ name ∈ a.attrNames x, '=' ∉ name.toList
  attr : ∀ name ∈ a.attrNames x, (a.attr x name).isSome

structure SameStart (a : Adapter ν) (b : Adapter μ) (x : ν) (y : μ) : Prop where
  tagName : a.tagName x = b.tagName y
  attrNames : a.attrNames x = b.attrNames y
  attr : ∀ name ∈ a.attrNames x, a.attr x name = b.attr y name

def listed (a : Adapter ν) (x : ν) : List (String × Option String) :=
  (a.attrNames x).map fun name => (name, a.attr x name)

theorem sameStart_iff :
    SameStart a b x y ↔ a.tagName x = b.tagName y ∧ a.listed x = b.listed y := by
  constructor
  · intro h
    refine ⟨h.tagName, ?_⟩
    rw [listed, listed, ← h.attrNames]
    exact map_congr_left fun name hn => by rw [h.attr name hn]
  · rintro ⟨htag, hl⟩
    have hnames : a.attrNames x = b.attrNames y := by
      simpa [listed, Function.comp_def] using congrArg (map Prod.fst) hl
    refine ⟨htag, hnames, fun name hn => ?_⟩
    rw [listed, listed, ← hnames] at hl
    exact (Prod.mk.inj (map_inj_left.mp hl name hn)).2

theorem Legible.listed (h : a.Legible x) : ∀ e ∈ a.listed x, '=' ∉ e.1.toList ∧ e.2.isSome := by
  intro e he
  obtain ⟨name, hn, rfl⟩ := mem_map.mp he
  exact ⟨h.attrNames name hn, h.attr name hn⟩

/-- A start tag tells the element as far as it shows, and so does its markup in a report. -/
theorem startTag_eq_iff [DecidableEq ν] [DecidableEq μ] (hx : a.Legible x) (hy : b.Legible y) :
    (a.startTag x = b.startTag y ↔ SameStart a b x y) ∧
      ∀ xs ys, (Report.snapshot a xs x).markup = (Report.snapshot b ys y).markup ↔
        SameStart a b x y := by
  have h : a.startTag x = b.startTag y ↔ SameStart a b x y := by
    rw [startTag, if_pos hx.isElement, startTag, if_pos hy.isElement, sameStart_iff]
    constructor
    · exact Written.openTag_inj hx.tagName hy.tagName hx.listed hy.listed
    · rintro ⟨htag, hl⟩
      exact congrArg₂ Written.openTag htag hl
  exact ⟨h, fun _ _ => h⟩

end Adapter

theorem isSome_find?_same {attrs : List (String × String)} {name : String}
    (h : name ∈ attrs.map (·.1)) : (attrs.find? (Ascii.same ·.1 name)).isSome := by
  obtain ⟨e, he, rfl⟩ := mem_map.mp h
  exact find?_isSome.mpr ⟨e, he, Ascii.same_iff.mpr rfl⟩

theorem Live.Tree.isSome_attr {t : Live.Tree} {id : Live.NodeId} {name : String}
    (h : name ∈ t.adapter.attrNames id) : (t.adapter.attr id name).isSome := by
  change name ∈ ((t.get? id).map (·.attrs.map (·.1))).getD [] at h
  change ((t.get? id).bind (Live.Attributes.get? ·.attrs name)).isSome
  cases hn : t.get? id with
  | none => simp [hn] at h
  | some n =>
    rw [hn] at h
    rw [Option.bind_some, Live.Attributes.get?, Option.isSome_map]
    exact isSome_find?_same h

theorem Markup.Document.isSome_attr {d : Markup.Document}
    {locations : Option Markup.LocationTable} {place : Markup.Place} {name : String}
    (h : name ∈ (d.adapter locations).attrNames place) :
    ((d.adapter locations).attr place name).isSome := by
  change name ∈ ((d.get? place).map (·.attrs.map (·.1))).getD [] at h
  change ((d.get? place).bind fun n => (n.attrs.find? (Ascii.same ·.1 name)).map (·.2)).isSome
  cases hn : d.get? place with
  | none => simp [hn] at h
  | some n =>
    rw [hn] at h
    rw [Option.bind_some, Option.isSome_map]
    exact isSome_find?_same h

def quotedValue : String := "\" name=\"&quot;>\u00a0"

def quotedTree : Live.Tree :=
  Live.Tree.empty.run [.createElement "META" [("Content", quotedValue), ("name", "")]]

def quotedDocument : Markup.Document :=
  ⟨[.element "meta" [("content", quotedValue), ("name", "")] [] []]⟩

theorem legible_quotedTree : quotedTree.adapter.Legible ⟨1⟩ where
  isElement := by decide +kernel
  tagName := by decide +kernel
  attrNames := by decide +kernel
  attr _ hn := Live.Tree.isSome_attr hn

theorem legible_quotedDocument : (quotedDocument.adapter none).Legible [.child 0] where
  isElement := by decide +kernel
  tagName := by decide +kernel
  attrNames := by decide +kernel
  attr _ hn := Markup.Document.isSome_attr hn

/-- The two trees write the element alike, and so it is the same in both. -/
theorem sameStart_quoted :
    quotedTree.adapter.startTag ⟨1⟩ =
        "<meta content=\"&quot; name=&quot;&amp;quot;>&nbsp;\" name=\"\">" ∧
      quotedTree.adapter.startTag ⟨1⟩ = (quotedDocument.adapter none).startTag [.child 0] ∧
      Adapter.SameStart quotedTree.adapter (quotedDocument.adapter none) ⟨1⟩ [.child 0] := by
  have h : quotedTree.adapter.startTag ⟨1⟩ = (quotedDocument.adapter none).startTag [.child 0] :=
    String.toList_inj.mp (by decide +kernel)
  exact ⟨String.toList_inj.mp (by decide +kernel), h,
    (Adapter.startTag_eq_iff legible_quotedTree legible_quotedDocument).1.mp h⟩

end HeadAudit

import HeadAudit.Check.Element

namespace HeadAudit

namespace Adapter

variable {ν : Type} {a : Adapter ν} {x : ν} {pattern tag name value : String}

def tagged (a : Adapter ν) (tag : String) (x : ν) : Bool := a.isElement x && a.tagName x == tag

def reads (a : Adapter ν) (name value : String) (x : ν) : Bool :=
  (a.attr x name).any (Ascii.same · value)

theorem tagged_iff : a.tagged tag x ↔ a.isElement x ∧ a.tagName x = tag := by
  rw [tagged, Bool.and_eq_true, beq_iff_eq]

theorem reads_eq (h : Ascii.lower value = value) :
    a.reads name value x = ((a.attr x name).map Ascii.lower == some value) := by
  rw [reads]
  cases a.attr x name with
  | none => rfl
  | some actual => rw [Option.any_some, Option.map_some, Ascii.same, h, Option.some_beq_some]

theorem selects_eq {tests : List AttributeTest}
    (h : Selector.parse? pattern = some ⟨some tag, tests⟩) :
    a.selects x pattern = (a.tagged tag x && tests.all (·.holds a x)) := by
  rw [selects, h]
  rfl

theorem selects_tag (h : Selector.parse? pattern = some ⟨some tag, []⟩) :
    a.selects x pattern = a.tagged tag x := by
  rw [selects_eq h, List.all_nil, Bool.and_true]

theorem holds_present {ignoreCase : Bool} :
    (AttributeTest.mk name none ignoreCase).holds a x = a.hasAttr x name := by
  rw [AttributeTest.holds, hasAttr]
  cases a.attr x name <;> rfl

theorem selects_present (h : Selector.parse? pattern = some ⟨some tag, [⟨name, none, false⟩]⟩) :
    a.selects x pattern = (a.tagged tag x && a.hasAttr x name) := by
  rw [selects_eq h, List.all_cons, List.all_nil, Bool.and_true, holds_present]

theorem selects_reads
    (h : Selector.parse? pattern = some ⟨some tag, [⟨name, some value, true⟩]⟩) :
    a.selects x pattern = (a.tagged tag x && a.reads name value x) := by
  rw [selects_eq h, List.all_cons, List.all_nil, Bool.and_true, AttributeTest.holds, reads]
  cases a.attr x name <;> rfl

/-- Several patterns that differ in the value ask for one of the values. -/
theorem selectsAny_reads {patterns values : List String} (h : patterns.map Selector.parse? =
      values.map fun value => some ⟨some tag, [⟨name, some value, true⟩]⟩) :
    a.selectsAny x patterns = (a.tagged tag x && values.any (a.reads name · x)) := by
  rw [selectsAny]
  induction patterns generalizing values with
  | nil =>
    rw [List.map_nil, eq_comm, List.map_eq_nil_iff] at h
    rw [h, List.any_nil, List.any_nil, Bool.and_false]
  | cons pattern patterns ih =>
    cases values with
    | nil => cases h
    | cons value values =>
      rw [List.map_cons, List.map_cons, List.cons.injEq] at h
      rw [List.any_cons, List.any_cons, selects_reads h.1, ih h.2, Bool.and_or_distrib_left]

end Adapter

namespace Rule

variable {ν : Type} (a : Adapter ν) (x : ν)

theorem isTitle_eq : isTitle a x = a.tagged "title" x := Adapter.selects_tag rfl

theorem isPreconnect_eq : isPreconnect a x = (a.tagged "link" x && a.reads "rel" "preconnect" x) :=
  Adapter.selects_reads rfl

theorem isAsyncScript_eq : isAsyncScript a x =
    (a.tagged "script" x && (a.hasAttr x "src" && a.hasAttr x "async")) := by
  have h : Selector.parse? "script[src][async]" =
      some ⟨some "script", [⟨"src", none, false⟩, ⟨"async", none, false⟩]⟩ := rfl
  rw [isAsyncScript, Adapter.selects_eq h, List.all_cons, List.all_cons, List.all_nil,
    Bool.and_true, Adapter.holds_present, Adapter.holds_present]

theorem selects_script : a.selects x "script" = a.tagged "script" x :=
  Adapter.selects_tag rfl

theorem selects_style : a.selects x "style" = a.tagged "style" x :=
  Adapter.selects_tag rfl

theorem selects_stylesheet : a.selects x "link[rel=stylesheet i]" =
    (a.tagged "link" x && a.reads "rel" "stylesheet" x) :=
  Adapter.selects_reads rfl

theorem isSyncStyles_eq : isSyncStyles a x =
    (a.tagged "link" x && a.reads "rel" "stylesheet" x || a.tagged "style" x) := by
  rw [isSyncStyles, Adapter.selectsAny, List.any_cons, List.any_cons, List.any_nil, Bool.or_false,
    selects_stylesheet, selects_style]

/-- Styles that import others are styles in the first place. -/
theorem isImportStyles_eq : isImportStyles a x =
    (isSyncStyles a x && Text.contains "@import" (a.textContent x)) := by
  rw [isImportStyles, isSyncStyles, Adapter.selectsAny, Adapter.selectsAny, List.any_cons,
    List.any_cons, List.any_nil, Bool.or_false, List.any_cons, List.any_cons, List.any_nil,
    Bool.or_false, Bool.or_comm]

theorem isPreload_eq : isPreload a x =
    (a.tagged "link" x && ["preload", "modulepreload"].any (a.reads "rel" · x)) :=
  Adapter.selectsAny_reads rfl

theorem isPrefetchPrerender_eq : isPrefetchPrerender a x =
    (a.tagged "link" x && ["prefetch", "dns-prefetch", "prerender"].any (a.reads "rel" · x)) :=
  Adapter.selectsAny_reads rfl

theorem isOriginTrial_eq :
    isOriginTrial a x = (a.tagged "meta" x && a.reads "http-equiv" "origin-trial" x) :=
  Adapter.selects_reads rfl

theorem isContentPolicy_eq : isContentPolicy a x = (a.tagged "meta" x &&
    ["content-security-policy", "content-security-policy-report-only"].any
      (a.reads "http-equiv" · x)) :=
  Adapter.selectsAny_reads rfl

end Rule

namespace Check

variable {ν : Type} (a : Adapter ν) (x : ν)

theorem selects_base : a.selects x "base" = a.tagged "base" x :=
  Adapter.selects_tag rfl

theorem isViewport_eq :
    Viewport.isViewport a x = (a.tagged "meta" x && a.reads "name" "viewport" x) :=
  Adapter.selects_reads rfl

theorem isDefaultStyle_eq : DefaultStyle.isDefaultStyle a x =
    (a.tagged "meta" x && a.reads "http-equiv" "default-style" x) :=
  Adapter.selects_reads rfl

theorem isDeclaration_eq : Charset.isDeclaration a x = (a.tagged "meta" x &&
    (a.hasAttr x "charset" || a.reads "http-equiv" "content-type" x)) := by
  have hcharset : a.selects x "meta[charset]" = (a.tagged "meta" x && a.hasAttr x "charset") :=
    Adapter.selects_present rfl
  have htype : a.selects x "meta[http-equiv=content-type i]" =
      (a.tagged "meta" x && a.reads "http-equiv" "content-type" x) :=
    Adapter.selects_reads rfl
  rw [Charset.isDeclaration, Adapter.selectsAny, List.any_cons, List.any_cons, List.any_nil,
    Bool.or_false, hcharset, htype, Bool.and_or_distrib_left]

theorem selects_pragma : a.selects x "meta[http-equiv]" =
    (a.tagged "meta" x && a.hasAttr x "http-equiv") :=
  Adapter.selects_present rfl

end Check

end HeadAudit

import Mathlib
import HeadAudit.Markup.View
import HeadAudit.Proofs.Report.Reorder
import HeadAudit.Proofs.Selector.Tests

namespace HeadAudit.Check.Preload

open List

variable {ν μ : Type} {a : Adapter ν} {b : Adapter μ} {ctx : Context} {x c parent head : ν}
  {head' : μ} {href r : String}

/-- A link that preloads what it refers to. -/
@[mk_iff]
structure Preloads (a : Adapter ν) (x : ν) (href : String) : Prop where
  link : a.tagged "link" x
  rel : a.reads "rel" "preload" x ∨ a.reads "rel" "modulepreload" x
  href : a.attr x "href" = some href

def Refers (a : Adapter ν) (c : ν) (r : String) : Prop :=
  a.tagged "script" c ∧ a.attr c "src" = some r ∨
    a.tagged "link" c ∧ a.attr c "href" = some r ∧ ¬∃ href, Preloads a c href

section Elements

theorem selects_preload {pattern value : String} (h : Selector.parse? pattern =
      some ⟨some "link", [⟨"rel", some value, true⟩, ⟨"href", none, false⟩]⟩) :
    a.selects x pattern = (a.tagged "link" x && (a.reads "rel" value x && a.hasAttr x "href")) := by
  rw [Adapter.selects_eq h, all_cons, all_cons, all_nil, Bool.and_true, Adapter.holds_present,
    AttributeTest.holds, Adapter.reads]
  cases a.attr x "rel" <;> rfl

theorem isPreload_eq : isPreload a x = (a.tagged "link" x &&
    ((a.reads "rel" "preload" x || a.reads "rel" "modulepreload" x) && a.hasAttr x "href")) := by
  have hp : a.selects x "link[rel=preload i][href]" =
      (a.tagged "link" x && (a.reads "rel" "preload" x && a.hasAttr x "href")) :=
    selects_preload (by decide +kernel)
  have hm : a.selects x "link[rel=modulepreload i][href]" =
      (a.tagged "link" x && (a.reads "rel" "modulepreload" x && a.hasAttr x "href")) :=
    selects_preload (by decide +kernel)
  rw [isPreload, Adapter.selectsAny, any_cons, any_cons, any_nil, Bool.or_false, hp, hm,
    ← Bool.and_or_distrib_left, ← Bool.and_or_distrib_right]

theorem isPreload_iff : isPreload a x ↔ ∃ href, Preloads a x href := by
  rw [isPreload_eq, Bool.and_eq_true, Bool.and_eq_true, Bool.or_eq_true, Adapter.hasAttr,
    Option.isSome_iff_exists]
  constructor
  · rintro ⟨hl, hr, href, hh⟩
    exact ⟨href, hl, hr, hh⟩
  · rintro ⟨href, h⟩
    exact ⟨h.link, h.rel, href, h.href⟩

theorem reference?_eq_some_iff : reference? a c = some r ↔ Refers a c r := by
  have hscript : a.selects c "script[src]" = (a.tagged "script" c && a.hasAttr c "src") :=
    Adapter.selects_present (by decide +kernel)
  have hlink : a.selects c "link[href]" = (a.tagged "link" c && a.hasAttr c "href") :=
    Adapter.selects_present (by decide +kernel)
  -- No element is both, so it makes no difference which question comes first.
  have hne : a.tagged "script" c → a.tagged "link" c → False := by
    rw [Adapter.tagged_iff, Adapter.tagged_iff]
    exact fun h h' => absurd (h.2.symm.trans h'.2) (by decide)
  rw [reference?, hscript, hlink, Refers, ← isPreload_iff, Adapter.hasAttr, Adapter.hasAttr]
  cases hs : a.tagged "script" c with
  | true =>
    have hl : a.tagged "link" c = false := Bool.eq_false_iff.mpr (hne hs)
    cases a.attr c "src" <;> simp [hl]
  | false =>
    cases a.attr c "href" <;> cases a.tagged "link" c <;> cases isPreload a c <;> simp

end Elements

/-- Another child of the parent refers to what an element preloads, seen from the base in effect. -/
@[mk_iff]
structure Discovers (a : Adapter ν) (ctx : Context) (parent x : ν) (href : String) (c : ν) :
    Prop where
  other : c ≠ x
  same : ∃ r, Refers a c r ∧
    absolute (ctx.effectiveBase a parent) r = absolute (ctx.effectiveBase a parent) href

/-- No child in front of this one discovers what the element preloads. -/
structure First (a : Adapter ν) (ctx : Context) (parent x : ν) (href : String) (c : ν) :
    Prop where
  discovers : Discovers a ctx parent x href c
  split : ∃ front back, a.children parent = front ++ c :: back ∧
    ∀ d ∈ front, ¬Discovers a ctx parent x href d

section Detection

def refersTo (a : Adapter ν) (base : Option Url) (href : String) (c : ν) : Bool :=
  (reference? a c).any fun r => absolute base r == absolute base href

theorem refersTo_iff {base : Option Url} : refersTo a base href c ↔
    ∃ r, Refers a c r ∧ absolute base r = absolute base href := by
  simp [refersTo, Option.any_eq_true, reference?_eq_some_iff]

theorem First.mem (h : First a ctx parent x href c) : c ∈ a.children parent := by
  obtain ⟨front, back, hs, -⟩ := h.split
  rw [hs]
  exact mem_append_right _ mem_cons_self

variable [DecidableEq ν] {d : Discovery ν}

theorem find?_siblings_eq_some_iff (hp : a.parent x = some parent) :
    (a.siblings x).find? (refersTo a (ctx.effectiveBase a parent) href) = some c ↔
      First a ctx parent x href c := by
  have hd : ∀ c, (c ≠ x ∧ refersTo a (ctx.effectiveBase a parent) href c) ↔
      Discovers a ctx parent x href c := by
    intro c
    rw [refersTo_iff]
    exact ⟨fun h => ⟨h.1, h.2⟩, fun h => ⟨h.other, h.same⟩⟩
  rw [Adapter.siblings, hp]
  simp only [find?_filter, find?_eq_some_iff_append, decide_eq_true_eq, Bool.not_eq_true',
    decide_eq_false_iff_not, hd]
  exact ⟨fun h => ⟨h.1, h.2⟩, fun h => ⟨h.discovers, h.split⟩⟩

theorem discovery?_eq_some_iff (hp : a.parent x = some parent) :
    discovery? a ctx x = some d ↔ Preloads a x d.href ∧
      d.url = absolute (ctx.effectiveBase a parent) d.href ∧
        First a ctx parent x d.href d.discoverer := by
  rw [discovery?, hp, Option.bind_some]
  constructor
  · intro h
    obtain ⟨hx, h⟩ := Option.ite_none_right_eq_some.mp h
    obtain ⟨href, hh, h⟩ := Option.bind_eq_some_iff.mp h
    obtain ⟨c, hc, rfl⟩ := Option.map_eq_some_iff.mp h
    obtain ⟨_, hx⟩ := isPreload_iff.mp hx
    exact ⟨⟨hx.link, hx.rel, hh⟩, rfl, (find?_siblings_eq_some_iff hp).mp hc⟩
  · rintro ⟨hx, hu, hc⟩
    rw [if_pos (isPreload_iff.mpr ⟨_, hx⟩), hx.href, Option.bind_some]
    exact Option.map_eq_some_iff.mpr
      ⟨d.discoverer, (find?_siblings_eq_some_iff hp).mpr hc, by rw [← hu]⟩

theorem exists_first (hp : a.parent x = some parent) (hc : c ∈ a.children parent)
    (h : Discovers a ctx parent x href c) : ∃ c, First a ctx parent x href c := by
  have hs : c ∈ a.siblings x := by
    rw [Adapter.siblings, hp]
    exact mem_filter.mpr ⟨hc, decide_eq_true h.other⟩
  have hr : refersTo a (ctx.effectiveBase a parent) href c := refersTo_iff.mpr h.same
  obtain ⟨c, hc⟩ := Option.isSome_iff_exists.mp (find?_isSome.mpr ⟨c, hs, hr⟩)
  exact ⟨c, (find?_siblings_eq_some_iff hp).mp hc⟩

def reported (f : Finding) : Option (String × String) :=
  match f.payload with
  | some (.unnecessaryPreload href url _) => some (href, url)
  | _ => none

theorem reported_check :
    reported (check a ctx x) = (discovery? a ctx x).map fun d => (d.href, d.url) := by
  rw [check]
  cases discovery? a ctx x <;> rfl

theorem isUnnecessary_eq : isUnnecessary a ctx x = (reported (check a ctx x)).isSome := by
  rw [isUnnecessary, reported_check, Option.isSome_map]

theorem reported_check_eq_some_iff (hp : a.parent x = some parent) {url : String} :
    reported (check a ctx x) = some (href, url) ↔ Preloads a x href ∧
      url = absolute (ctx.effectiveBase a parent) href ∧
        ∃ c ∈ a.children parent, Discovers a ctx parent x href c := by
  rw [reported_check, Option.map_eq_some_iff]
  constructor
  · rintro ⟨d, hd, hr⟩
    cases hr
    obtain ⟨hx, hu, hc⟩ := (discovery?_eq_some_iff hp).mp hd
    exact ⟨hx, hu, d.discoverer, hc.mem, hc.discovers⟩
  · rintro ⟨hx, hu, c, hm, hc⟩
    obtain ⟨c, hc⟩ := exists_first hp hm hc
    exact ⟨⟨href, url, c⟩, (discovery?_eq_some_iff hp).mpr ⟨hx, hu, hc⟩, rfl⟩

theorem isUnnecessary_iff (hp : a.parent x = some parent) : isUnnecessary a ctx x ↔
    ∃ href, Preloads a x href ∧ ∃ c ∈ a.children parent, Discovers a ctx parent x href c := by
  rw [isUnnecessary_eq, Option.isSome_iff_exists, Prod.exists]
  simp only [reported_check_eq_some_iff hp]
  constructor
  · rintro ⟨href, _, hx, -, hc⟩
    exact ⟨href, hx, hc⟩
  · rintro ⟨href, hx, hc⟩
    exact ⟨href, _, hx, rfl, hc⟩

def message (href tag : String) : String :=
  s!"This preload has little to no effect. {href} is already discoverable by another " ++
    s!"{tag} element."

/-- A preload is found not to be needed exactly if another child refers to what it preloads, and the
first such child is named. -/
structure Exact (a : Adapter ν) (ctx : Context) (parent x : ν) : Prop where
  isUnnecessary_iff : isUnnecessary a ctx x ↔
    ∃ href, Preloads a x href ∧ ∃ c ∈ a.children parent, Discovers a ctx parent x href c
  exists_first : isUnnecessary a ctx x →
    ∃ href c, Preloads a x href ∧ First a ctx parent x href c
  check_of_first : ∀ href c, Preloads a x href → First a ctx parent x href c → check a ctx x =
    { warnings := [message href (a.tagName c)]
      payload := some (.unnecessaryPreload href (absolute (ctx.effectiveBase a parent) href)
        (a.startTag c)) }
  check_of_none : isUnnecessary a ctx x = false → check a ctx x = {}

theorem exact_of_parent (hp : a.parent x = some parent) : Exact a ctx parent x where
  isUnnecessary_iff := isUnnecessary_iff hp
  exists_first := fun h => by
    obtain ⟨href, hx, c, hm, hc⟩ := (isUnnecessary_iff hp).mp h
    obtain ⟨c, hc⟩ := Preload.exists_first hp hm hc
    exact ⟨href, c, hx, hc⟩
  check_of_first := fun href c hx hc => by
    have hd : discovery? a ctx x =
        some ⟨href, absolute (ctx.effectiveBase a parent) href, c⟩ :=
      (discovery?_eq_some_iff hp).mpr ⟨hx, rfl, hc⟩
    rw [check, hd]
    rfl
  check_of_none := fun h => by
    rw [isUnnecessary, Option.isSome_eq_false_iff, Option.isNone_iff_eq_none] at h
    rw [check, h]

end Detection

section Order

def namesBase (a : Adapter ν) (c : ν) : Bool := a.tagged "base" c && a.hasAttr c "href"

/-- Two views of a head that show the same children in another order. -/
structure Permuted (a : Adapter ν) (b : Adapter μ) (place : ν → μ) (head : ν) (head' : μ) :
    Prop where
  perm : ((a.children head).map place).Perm (b.children head')
  nodup : (b.children head').Nodup
  parent : ∀ c ∈ a.children head, a.parent c = some head
  parent' : ∀ c ∈ a.children head, b.parent (place c) = some head'
  isElement : ∀ c ∈ a.children head, b.isElement (place c) = a.isElement c
  tagName : ∀ c ∈ a.children head, b.tagName (place c) = a.tagName c
  attr : ∀ c ∈ a.children head, b.attr (place c) = a.attr c

theorem selects_namesBase : a.selects c "base[href]" = namesBase a c :=
  Adapter.selects_present (by decide +kernel)

theorem find?_eq_of_perm {α : Type} {p : α → Bool} {xs ys : List α} (h : xs.Perm ys)
    (hc : xs.countP p ≤ 1) : xs.find? p = ys.find? p := by
  -- A list of at most one entry has no other order, and its head is what the search finds.
  have hf := h.filter p
  rw [countP_eq_length_filter] at hc
  rw [← head?_filter, ← head?_filter]
  match hxs : xs.filter p with
  | [] =>
    rw [hxs] at hf
    rw [hf.nil_eq]
  | [x] =>
    rw [hxs] at hf
    rw [hf.singleton_eq]
  | x :: y :: rest => simp [hxs] at hc

namespace Permuted

variable {place : ν → μ} (h : Permuted a b place head head') (hx : x ∈ a.children head)

include h

theorem mem_iff {d : μ} : d ∈ b.children head' ↔ ∃ c ∈ a.children head, place c = d := by
  rw [← h.perm.mem_iff, mem_map]

include hx

theorem tagged (tag : String) : b.tagged tag (place x) = a.tagged tag x := by
  rw [Adapter.tagged, Adapter.tagged, h.isElement x hx, h.tagName x hx]

theorem preloads_iff : Preloads b (place x) href ↔ Preloads a x href := by
  rw [Preload.preloads_iff, Preload.preloads_iff, h.tagged hx, Adapter.reads, Adapter.reads,
    Adapter.reads, Adapter.reads, h.attr x hx]

theorem refers_iff : Refers b (place x) r ↔ Refers a x r := by
  rw [Refers, Refers, h.tagged hx, h.tagged hx, h.attr x hx]
  simp only [h.preloads_iff hx]

theorem namesBase : namesBase b (place x) = Preload.namesBase a x := by
  rw [Preload.namesBase, Preload.namesBase, h.tagged hx, Adapter.hasAttr, Adapter.hasAttr,
    h.attr x hx]

omit hx

/-- A base element is found wherever it stands, if it is the only one. -/
theorem find?_namesBase (hcount : (a.children head).countP (Preload.namesBase a) ≤ 1) :
    (b.children head').find? (Preload.namesBase b) =
      ((a.children head).find? (Preload.namesBase a)).map place := by
  have hsame : ∀ c ∈ a.children head,
      (Preload.namesBase b ∘ place) c = Preload.namesBase a c := fun c hc => h.namesBase hc
  have hcount' : ((a.children head).map place).countP (Preload.namesBase b) ≤ 1 := by
    rw [countP_map]
    exact (countP_congr fun c hc => by rw [hsame c hc]).trans_le hcount
  rw [← find?_eq_of_perm h.perm hcount', find?_map, find?_congr hsame]

theorem effectiveBase
    (hb : ctx.base.isSome ∨ (a.children head).countP (Preload.namesBase a) ≤ 1) :
    ctx.effectiveBase b head' = ctx.effectiveBase a head := by
  rw [Context.effectiveBase, Context.effectiveBase]
  cases hgiven : ctx.base with
  | some base => rfl
  | none =>
    rw [hgiven, Option.isSome_none, Bool.false_eq_true, false_or] at hb
    have hhref : ((b.children head').find? (Preload.namesBase b)).bind (b.attr · "href") =
        ((a.children head).find? (Preload.namesBase a)).bind (a.attr · "href") := by
      rw [h.find?_namesBase hb]
      cases hc : (a.children head).find? (Preload.namesBase a) with
      | none => rfl
      | some c =>
        rw [Option.map_some, Option.bind_some, Option.bind_some, h.attr c (mem_of_find?_eq_some hc)]
    simp only [selects_namesBase, hhref]

variable (hb : ctx.base.isSome ∨ (a.children head).countP (Preload.namesBase a) ≤ 1)

include hb hx

theorem discovers_iff (hc : c ∈ a.children head) :
    Discovers b ctx head' (place x) href (place c) ↔ Discovers a ctx head x href c := by
  -- No two children go to one place, since the second head has none of its children twice.
  have hplace : place c ≠ place x ↔ c ≠ x :=
    not_congr ⟨inj_on_of_nodup_map (h.perm.nodup_iff.mpr h.nodup) hc hx, congrArg place⟩
  rw [Preload.discovers_iff, Preload.discovers_iff, hplace, h.effectiveBase hb]
  simp only [h.refers_iff hc]

variable [DecidableEq ν] [DecidableEq μ]

theorem reported_check : reported (check b ctx (place x)) = reported (check a ctx x) := by
  have hdiscovers : ∀ href, (∃ d ∈ b.children head', Discovers b ctx head' (place x) href d) ↔
      ∃ c ∈ a.children head, Discovers a ctx head x href c := by
    intro href
    constructor
    · rintro ⟨d, hd, hdis⟩
      obtain ⟨c, hc, rfl⟩ := h.mem_iff.mp hd
      exact ⟨c, hc, (h.discovers_iff hx hb hc).mp hdis⟩
    · rintro ⟨c, hc, hdis⟩
      exact ⟨place c, h.mem_iff.mpr ⟨c, hc, rfl⟩, (h.discovers_iff hx hb hc).mpr hdis⟩
  ext ⟨href, url⟩
  rw [reported_check_eq_some_iff (h.parent' x hx), reported_check_eq_some_iff (h.parent x hx),
    h.preloads_iff hx, h.effectiveBase hb, hdiscovers]

theorem isUnnecessary : Preload.isUnnecessary b ctx (place x) = Preload.isUnnecessary a ctx x := by
  rw [isUnnecessary_eq, isUnnecessary_eq, h.reported_check hx hb]

end Permuted

/-- The same preloads are reported in two views, with the same references and URLs. -/
structure SameReports [DecidableEq ν] [DecidableEq μ] (a : Adapter ν) (b : Adapter μ)
    (ctx : Context) (place : ν → μ) (head : ν) (head' : μ) : Prop where
  isUnnecessary : ∀ c ∈ a.children head, isUnnecessary b ctx (place c) = isUnnecessary a ctx c
  unnecessary : (((a.children head).filter (Preload.isUnnecessary a ctx)).map place).Perm
    ((b.children head').filter (Preload.isUnnecessary b ctx))
  reported : ∀ c ∈ a.children head,
    reported (check b ctx (place c)) = reported (check a ctx c)

theorem sameReports_of_permuted [DecidableEq ν] [DecidableEq μ] {place : ν → μ}
    (h : Permuted a b place head head')
    (hb : ctx.base.isSome ∨ (a.children head).countP (namesBase a) ≤ 1) :
    SameReports a b ctx place head head' where
  isUnnecessary := fun _ hc => h.isUnnecessary hc hb
  unnecessary := by
    have hsame : ∀ c ∈ a.children head,
        (Preload.isUnnecessary b ctx ∘ place) c = Preload.isUnnecessary a ctx c :=
      fun c hc => h.isUnnecessary hc hb
    rw [← filter_congr hsame, ← filter_map]
    exact h.perm.filter _
  reported := fun _ hc => h.reported_check hc hb

end Order

section Live

open Live

variable {t : Tree} {top : NodeId} {ids : List NodeId}

/-- The children of an element in a tree are moved into any order. -/
theorem exists_permuted (h : t.Forest t.children) (he : t.isElement top)
    (hp : ids.Perm (t.adapter.children top)) :
    ∃ u, t.appendAll top ids = .ok u ∧ Permuted t.adapter u.adapter id top top := by
  obtain ⟨u, hu, hchildren, -⟩ := h.shuffled he hp
  have hn : ids.Nodup := hp.nodup_iff.mpr ((h.rooted top).nodup .head)
  obtain ⟨_, hu', hr⟩ := h.appendAll hn fun c hc =>
    (Tree.mem_adapter_children.mp (hp.mem_iff.mp hc)).2.1
  cases hu.symm.trans hu'
  refine ⟨u, hu, ?_⟩
  constructor
  case perm =>
    rw [map_id, hchildren]
    exact hp.symm
  case nodup =>
    rw [hchildren]
    exact hn
  case parent => exact fun c hc => (h.rooted top).parent .head hc
  case parent' =>
    intro c hc
    refine (hr.forest.rooted top).parent .head ?_
    rw [hchildren]
    exact hp.mem_iff.mpr hc
  case isElement => exact fun c _ => (Tree.sameNode (hr.content? c)).isElement
  case tagName => exact fun c _ => (Tree.sameNode (hr.content? c)).tagName
  case attr => exact fun c _ => funext (Tree.sameNode (hr.content? c)).attr

theorem sameReports_of_appendAll (h : t.Forest t.children) (he : t.isElement top)
    (hp : ids.Perm (t.adapter.children top))
    (hb : ctx.base.isSome ∨ (t.adapter.children top).countP (namesBase t.adapter) ≤ 1) :
    ∃ u, t.appendAll top ids = .ok u ∧ SameReports t.adapter u.adapter ctx id top top := by
  obtain ⟨u, hu, hpermuted⟩ := exists_permuted h he hp
  exact ⟨u, hu, sameReports_of_permuted hpermuted hb⟩

end Live

/-- Preloads that are not needed are found exactly, and whatever the order of the children of a head
is, unless several of them say what the base is. -/
theorem detects [DecidableEq ν] (a : Adapter ν) (ctx : Context) :
    (∀ parent x, a.parent x = some parent → Exact a ctx parent x) ∧
      ∀ {μ : Type} [DecidableEq μ] (b : Adapter μ) (place : ν → μ) (head : ν) (head' : μ),
        Permuted a b place head head' →
        ctx.base.isSome ∨ (a.children head).countP (namesBase a) ≤ 1 →
        SameReports a b ctx place head head' :=
  ⟨fun _ _ hp => exact_of_parent hp, fun _ _ _ _ h hb => sameReports_of_permuted h hb⟩

def preloadNodes : List Markup.Node :=
  [.element "link" [("rel", "preload"), ("href", "main.js")] [] [],
    .element "script" [("src", "app://cdn/main.js")] [] [],
    .element "base" [("href", "app://cdn/")] [] []]

def headOf (nodes : List Markup.Node) : Markup.Document := ⟨[.element "head" [] nodes []]⟩

def turned : Markup.Place → Markup.Place
  | [.child i, outer] => [.child (2 - i), outer]
  | place => place

theorem detects_turned :
    Exact ((headOf preloadNodes).adapter none) { now := 0 } [.child 0] [.child 0, .child 0] ∧
      Permuted ((headOf preloadNodes).adapter none) ((headOf preloadNodes.reverse).adapter none)
        turned [.child 0] [.child 0] ∧
      reported (check ((headOf preloadNodes.reverse).adapter none) { now := 0 }
        [.child 2, .child 0]) = some ("main.js", "app://cdn/main.js") := by
  have hchildren : ((headOf preloadNodes).adapter none).children [.child 0] =
      [[.child 0, .child 0], [.child 1, .child 0], [.child 2, .child 0]] := by decide +kernel
  have hp : Permuted ((headOf preloadNodes).adapter none)
      ((headOf preloadNodes.reverse).adapter none) turned [.child 0] [.child 0] := by
    constructor
    case perm => decide +kernel
    case nodup => decide +kernel
    case parent => decide +kernel
    case parent' => decide +kernel
    case isElement => decide +kernel
    case tagName => decide +kernel
    case attr =>
      rw [hchildren]
      simp only [forall_mem_cons, not_mem_nil, false_implies, implies_true, and_true]
      exact ⟨rfl, rfl, rfl⟩
  obtain ⟨hexact, hsame⟩ := detects ((headOf preloadNodes).adapter none) { now := 0 }
  have hr := (hsame _ _ _ _ hp (.inr (by decide +kernel))).reported [.child 0, .child 0]
    (by simp [hchildren])
  have hc : reported (check ((headOf preloadNodes).adapter none) { now := 0 }
      [.child 0, .child 0]) = some ("main.js", "app://cdn/main.js") := by decide +kernel
  exact ⟨hexact _ _ (by decide +kernel), hp, hr.trans hc⟩

end HeadAudit.Check.Preload

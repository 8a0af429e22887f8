import HeadAudit.Proofs.Parity.Roots

namespace HeadAudit

open List Live
open Markup (Place)

/-- A document like those that parsing ends with: one `html` element that starts with a head, and
tidy attribute names on both and below the head. -/
structure Markup.Document.Regular (d : Document) (html head : Node) : Prop where
  onlyHtml : d.nodes.filter (·.isElement) = [html]
  htmlTag : html.tag? = some "html"
  htmlNames : TidyNames html.attrs
  firstHead : (html.children.filter (·.isElement)).head? = some head
  headTag : head.tag? = some "head"
  headTidy : head.Tidy

variable {d : Markup.Document} {html head n : Markup.Node} {t : Tree} {lo : Nat} {place : Place}
  {id : NodeId} {tag : String}

theorem lower_html : Ascii.lower "html" = "html" := Ascii.lower_eq_self (by simp [Char.isUpper])

theorem lower_head : Ascii.lower "head" = "head" := Ascii.lower_eq_self (by simp [Char.isUpper])

structure FirstMirrored (d : Markup.Document) (t : Tree) (lo : Nat) (place : Place) (id : NodeId)
    (tag : String) (n : Markup.Node) (i : Nat) (c : NodeId) : Prop where
  mirrored : Mirrored d t lo (.child i :: place) n c
  found : d.childWithTag? place tag = some (.child i :: place)
  found' : t.findElement id tag = some c
  first : ((d.below place).zipIdx.filter (·.1.isElement)).head? = some (n, i)
  first' : ((t.children id).filter t.isElement).head? = some c

theorem exists_firstMirrored (h : t.CopiedAll lo (d.below place) (t.children id))
    (hf : ((d.below place).filter (·.isElement)).head? = some n) (ht : n.tag? = some tag)
    (hl : Ascii.lower tag = tag) (hs : 0 < t.size) :
    ∃ i c, FirstMirrored d t lo place id tag n i c := by
  obtain ⟨i, hi, hfind, hzip⟩ := Markup.Document.first_eq hf ht
  have hzip := hzip 0
  rw [Nat.zero_add] at hzip
  obtain ⟨c, hc, hcopied⟩ := exists_rel_head? (h.elements 0) hzip
  have he : n.isElement := (mem_filter.mp (mem_of_mem_head? hf)).2
  obtain ⟨fuel, hfuel⟩ : ∃ k, t.size = k + 1 := ⟨t.size - 1, by omega⟩
  refine ⟨i, c, ⟨?_, he, hcopied⟩, ?_, ?_, hzip, hc⟩
  · rw [Markup.Document.get?_child, hi]
  · rw [Markup.Document.childWithTag?, hfind, Option.map_some]
  · rw [Tree.findElement, hfuel, Tree.findWithin, h.findSome? hf ht hl fuel, hc]

variable {i : Nat} {c : NodeId} {locations : Option Markup.LocationTable}

theorem Mirrored.exists_first (h : Mirrored d t lo place n id) {m : Markup.Node}
    (hf : (n.children.filter (·.isElement)).head? = some m) (ht : m.tag? = some tag)
    (hl : Ascii.lower tag = tag) (hs : 0 < t.size) :
    ∃ i c, FirstMirrored d t lo place id tag m i c := by
  rw [← Markup.Document.below_of_get? h.get?] at hf
  exact exists_firstMirrored h.copiedAll hf ht hl hs

theorem Mirrored.writeStart (h : Mirrored d t lo place n id) (hn : TidyNames n.attrs) :
    (d.adapter locations).writeStart place = t.adapter.writeStart id := by
  rw [Adapter.writeStart, Adapter.writeStart, h.tagName hn, h.attrNames hn]
  simp only [h.attr hn]

theorem Mirrored.tagName_eq (h : Mirrored d t lo place n id) (ht : n.tag? = some tag)
    (hl : Ascii.lower tag = tag) : (d.adapter locations).tagName place = tag := by
  change (((d.get? place).bind (·.tag?)).map Ascii.lower).getD "" = tag
  rw [h.get?, Option.bind_some, ht, Option.map_some, hl, Option.getD_some]

theorem FirstMirrored.parents (h : FirstMirrored d t lo place id tag n i c)
    (hp : Mirrored d t lo place html id) (hf : t.Forest t.children) :
    (d.children place).head? = some (.child i :: place) ∧
      (t.adapter.children id).head? = some c ∧
      d.parent? (.child i :: place) = some place ∧ t.adapter.parent c = some id := by
  have hfirst : (d.children place).head? = some (.child i :: place) := by
    rw [Markup.Document.children_of_isElement hp.isElement_place, head?_map, h.first,
      Option.map_some]
  have hfirst' : (t.adapter.children id).head? = some c := by
    change (if t.isElement id then (t.children id).filter t.isElement else []).head? = some c
    rw [if_pos hp.isElement_id, h.first']
  refine ⟨hfirst, hfirst', Markup.Document.parent?_of_mem (mem_of_mem_head? hfirst), ?_⟩
  exact (hf.rooted id).parent .head (mem_of_mem_head? hfirst')

/-- A parsed document with its live copy, and the places of `html` and `head` in both. -/
structure MirroredPage (d : Markup.Document) (html head : Markup.Node) (t : Tree) (i : Nat)
    (x : NodeId) (j : Nat) (y : NodeId) : Prop where
  forest : t.Forest t.children
  size : t.size = 1 + Tree.keptAll d.nodes
  document : t.isElement .root = false
  linked : x ∈ t.children .root
  html : FirstMirrored d t 1 [] .root "html" html i x
  head : FirstMirrored d t 1 [.child i] x "head" head j y

theorem exists_mirroredPage (h : d.Regular html head)
    (hs : Markup.Node.sizes d.nodes < 2 ^ 32 - 1) :
    ∃ t i x j y, Tree.copyNodes .empty .root d.nodes = .ok t ∧
      MirroredPage d html head t i x j y := by
  have hf := Tree.forest_empty.children
  have hempty : Tree.empty.children .root = [] := by decide
  have hroom : Tree.empty.size + Tree.keptAll d.nodes ≤ NodeId.absent.index := by
    have hle := Tree.keptAll_le_sizes d.nodes
    change 1 + Tree.keptAll d.nodes ≤ 4294967295
    omega
  obtain ⟨t, ids, ht, hg, hsize, hcopied⟩ := Tree.copyNodes_spec d.nodes .empty .root hf
    hf.contains_root hroom
  have hroot : t.children .root = ids := by rw [hg.added, hempty, nil_append]
  have hpos : 0 < t.size := by
    rw [hsize]
    exact Nat.lt_of_lt_of_le Nat.zero_lt_one (Nat.le_add_right 1 _)
  have hbelow : t.CopiedAll 1 (d.below []) (t.children .root) := by
    rw [hroot]
    exact hcopied
  have hfirst : ((d.below []).filter (·.isElement)).head? = some html := by
    rw [show d.below [] = d.nodes from rfl, h.onlyHtml, head?_cons]
  obtain ⟨i, x, hx⟩ := exists_firstMirrored hbelow hfirst h.htmlTag lower_html hpos
  obtain ⟨j, y, hy⟩ := hx.mirrored.exists_first h.firstHead h.headTag lower_head hpos
  refine ⟨t, i, x, j, y, ht, hg.forest, hsize, ?_, ?_, hx, hy⟩
  · have hc : t.content? .root = some .document := by
      rw [hg.content hf.contains_root]
      rfl
    obtain ⟨node, hnode, hcontent⟩ := Tree.get?_of_content? hc
    rw [Tree.isElement, hnode, Option.any_some, Node.isElement, hcontent]
  · exact (mem_filter.mp (mem_of_mem_head? hx.first')).1

variable {x y : NodeId} {j : Nat}

theorem MirroredPage.around (hp : MirroredPage d html head t i x j y)
    (h : d.Regular html head) (locations : Option Markup.LocationTable) :
    Around (d.adapter locations) t.adapter [.child j, .child i] [.child i] y x := by
  obtain ⟨hfirst, hfirst', hparent, hparent'⟩ := hp.head.parents hp.html.mirrored hp.forest
  refine ⟨hparent, hparent', rfl, ?_, hfirst, hfirst', ?_, ?_, ?_, ?_⟩
  · change (t.parent? x).filter t.isElement = none
    rw [hp.forest.linked.mem_iff.mp hp.linked, Option.filter_some, hp.document]
    rfl
  · rw [hp.html.mirrored.tagName_eq h.htmlTag lower_html]
    decide
  · exact hp.html.mirrored.tagName h.htmlNames
  · exact hp.html.mirrored.writeStart h.htmlNames
  · exact hp.html.mirrored.textContent

theorem MirroredPage.sameHead (hp : MirroredPage d html head t i x j y)
    (h : d.Regular html head) (locations : Option Markup.LocationTable) :
    SameHead (d.adapter locations) t.adapter
      (Paired (d.adapter locations) t.adapter [.child j, .child i] y) (Mirrored.rank d)
      [.child j, .child i] y := by
  have hkept : Mirrored.rank d [.child j, .child i] < Tree.keptAll d.nodes := by
    have hhead : head ∈ html.children := (mem_filter.mp (mem_of_mem_head? h.firstHead)).1
    have hhtml : html ∈ d.nodes := by
      have hm : html ∈ d.nodes.filter (·.isElement) := by
        rw [h.onlyHtml]
        exact mem_cons_self
      exact (mem_filter.mp hm).1
    rw [hp.head.mirrored.rank_eq]
    exact (Mirrored.kept_lt hhead).trans_le (Tree.kept_le_keptAll hhtml)
  have hrooted := hp.forest.rooted y
  refine ⟨hp.head.mirrored.similar h.headTidy hp.forest locations, .head, ?_, ?_, ?_, ?_, ?_,
    _, _, hp.around h locations⟩
  · rw [hp.head.mirrored.tagName_eq h.headTag lower_head]
    decide
  · exact hkept.trans_le (Tree.keptAll_le_sizes d.nodes)
  · change _ < t.size
    rw [hp.size]
    omega
  · exact fun q hq => Markup.Document.parent?_of_mem hq
  · exact fun c hc => hrooted.parent .head hc

/-- A parsed document goes into a live one, and both have the same report on their heads but for
the name of the adapter and the locations. -/
theorem report_ofMarkup (h : d.Regular html head) (hs : Markup.Node.sizes d.nodes < 2 ^ 32 - 1)
    (key : Nat) :
    ∃ live place, Live.Document.ofMarkup key d = .ok live ∧ d.head? = some place ∧
      ∀ (locations : Option Markup.LocationTable) (ctx : Context) (options : Options),
        (Report.run (d.adapter locations) ctx options place).unlocated =
          (Report.run live.tree.adapter ctx options live.head).unlocated := by
  obtain ⟨t, i, x, j, y, ht, hp⟩ := exists_mirroredPage h hs
  refine ⟨.ofTree key t, [.child j, .child i], ?_, ?_, fun locations ctx options => ?_⟩
  · rw [Document.ofMarkup, ht]
    rfl
  · rw [Markup.Document.head?, Markup.Document.html?, hp.html.found, Option.bind_some,
      hp.head.found]
  · have hhead : (Document.ofTree key t).head = y := by
      rw [Document.ofTree]
      dsimp only
      rw [hp.html.found', Option.getD_some, hp.head.found', Option.getD_some]
    rw [hhead]
    exact (hp.sameHead h locations).report ctx options

def sampleHead : Markup.Node :=
  .element "head" []
    [.text "\n  ", .element "meta" [("name", "color-scheme"), ("content", "dark light")] [] [],
      .comment " late ",
      .element "meta"
        [("name", "viewport"), ("content", "width=device-width, user-scalable=no")] [] [],
      .element "template" [("id", "row")] [] [.element "title" [] [.text "Row"] []]] []

def sampleHtml : Markup.Node :=
  .element "html" [("lang", "en")] [sampleHead, .text "\n", .element "body" [] [] []] []

def samplePage : Markup.Document := ⟨[.doctype "html", .comment " page ", sampleHtml]⟩

theorem regular_samplePage : samplePage.Regular sampleHtml sampleHead where
  onlyHtml := rfl
  htmlTag := rfl
  htmlNames := ⟨by simp [sampleHtml, Markup.Node.attrs],
    by simp [sampleHtml, Markup.Node.attrs, Char.isUpper]⟩
  firstHead := rfl
  headTag := rfl
  headTidy := by
    have hnil : TidyNames [] := ⟨nodup_nil, fun _ hm => absurd hm not_mem_nil⟩
    simp only [sampleHead, Markup.Node.Tidy, Markup.TidyAll, and_true, true_and]
    exact ⟨hnil, ⟨by simp, by simp [Char.isUpper]⟩, ⟨by simp, by simp [Char.isUpper]⟩,
      ⟨by simp, by simp [Char.isUpper]⟩⟩

theorem report_ofMarkup_samplePage :
    ∃ live, Live.Document.ofMarkup 1 samplePage = .ok live ∧
      (∀ (locations : Option Markup.LocationTable) (ctx : Context) (options : Options),
        (Report.run (samplePage.adapter locations) ctx options [.child 0, .child 2]).unlocated =
          (Report.run live.tree.adapter ctx options live.head).unlocated) ∧
      let report := (Report.run live.tree.adapter { now := 0 } {} live.head).unlocated
      report.weights.map (·.category) = [.other, .pragma, .other] ∧
        report.warnings.map (·.message) = ["Expected exactly 1 title, found 0"] ∧
        report.findings.map (fun f => (f.warnings, f.payload)) =
          [(["Disabling zooming can cause accessibility issues to users with visual " ++
            "impairments. Found \"no\"."],
            some (.viewport [("user-scalable", "no"), ("width", "device-width")]))] := by
  obtain ⟨live, place, hlive, hplace, hreport⟩ :=
    report_ofMarkup regular_samplePage (by decide) 1
  have hhead : samplePage.head? = some [.child 0, .child 2] := rfl
  rw [hhead, Option.some.injEq] at hplace
  subst hplace
  refine ⟨live, hlive, hreport, ?_⟩
  rw [← hreport none]
  exact ⟨by decide +kernel, by decide +kernel, by decide +kernel⟩

end HeadAudit

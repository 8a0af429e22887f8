import HeadAudit.Live.View
import HeadAudit.Proofs.Live.Edits
import HeadAudit.Proofs.Markup.Scanning
import HeadAudit.Proofs.Parity.Pairing

namespace HeadAudit

open List Markup StartTag

variable {ν : Type}

namespace Written

variable {tag : String}

theorem toList_concat (strings : List String) :
    ("".intercalate strings).toList = strings.flatMap String.toList := by
  rw [String.toList_intercalate]
  induction strings with
  | nil => rfl
  | cons s strings ih =>
    cases strings with
    | nil => simp
    | cons t strings => simp_all

theorem joined_cons (s : String) (strings : List String) :
    "".intercalate (s :: strings) = s ++ "".intercalate strings := by
  apply String.toList_inj.mp
  rw [String.toList_append, toList_concat, toList_concat, flatMap_cons]

theorem toList_endTag (tag : String) :
    (endTag tag).toList = '<' :: '/' :: (tag.toList ++ ['>']) := by
  simp only [endTag, String.toList_append]
  rfl

theorem toList_attr (name : String) (value : Option String) :
    (attr name value).toList =
      ' ' :: name.toList ++
        '=' :: '"' :: (((value.map attributeValue).getD "").toList ++ ['"']) := by
  simp only [attr, String.toList_append, append_assoc]
  rfl

theorem quote_not_mem_attributeChar (c : Char) : '"' ∉ attributeChar c := by
  rw [attributeChar]
  split_ifs with ha hq hn
  · decide
  · decide
  · decide
  · exact fun h => hq (beq_iff_eq.mpr (mem_singleton.mp h).symm)

theorem bracket_not_mem_textChar (c : Char) : '<' ∉ textChar c := by
  rw [textChar]
  split_ifs with ha hl hg hn
  · decide
  · decide
  · decide
  · decide
  · exact fun h => hl (beq_iff_eq.mpr (mem_singleton.mp h).symm)

theorem quote_not_mem_attributeValue (s : String) : '"' ∉ (attributeValue s).toList := by
  rw [attributeValue, String.toList_ofList, mem_flatMap]
  rintro ⟨c, -, hc⟩
  exact quote_not_mem_attributeChar c hc

theorem bracket_not_mem_text (h : isRaw tag = false) (s : String) : '<' ∉ (text tag s).toList := by
  rw [text, h, if_neg Bool.false_ne_true, String.toList_ofList, mem_flatMap]
  rintro ⟨c, -, hc⟩
  exact bracket_not_mem_textChar c hc

theorem closing?_attr {name : String} (h : Unmarked name.toList) (value : Option String)
    (cs : List Char) : closing? none ((attr name value).toList ++ cs) = closing? none cs := by
  have hv : '"' ∉ ((value.map attributeValue).getD "").toList := by
    cases value with
    | none => exact not_mem_nil
    | some s => exact quote_not_mem_attributeValue s
  have hn : Unmarked (' ' :: name.toList ++ ['=']) := by
    simpa [Unmarked] using h
  have hsplit : (attr name value).toList ++ cs = (' ' :: name.toList ++ ['=']) ++
      '"' :: (((value.map attributeValue).getD "").toList ++ '"' :: cs) := by
    simp only [toList_attr, append_assoc, cons_append, nil_append]
  rw [hsplit, closing?_append_value hn (.inl rfl) hv]

theorem balanced_attrs {names : List String} {value : String → Option String}
    (h : ∀ name ∈ names, Unmarked name.toList) :
    Balanced (names.flatMap fun name => (attr name (value name)).toList) := by
  constructor
  · intro cs
    induction names with
    | nil => rfl
    | cons name names ih =>
      rw [flatMap_cons, append_assoc, closing?_attr (h name mem_cons_self)]
      exact ih fun other ho => h other (mem_cons_of_mem name ho)
  · intro c hc
    cases names with
    | nil => cases hc
    | cons name names =>
      rw [flatMap_cons, toList_attr] at hc
      cases hc
      decide

theorem not_mem_rawTags (h : isVoid tag = true) : tag ∉ rawTags := by
  have hd : ∀ tag ∈ voidTags, tag ∉ rawTags := by decide
  exact hd tag (of_decide_eq_true h)

end Written

namespace Adapter

open Written

def writtenAttrs (a : Adapter ν) (node : ν) : List Char :=
  (a.attrNames node).flatMap fun name => (Written.attr name (a.attr node name)).toList

theorem toList_writeStart (a : Adapter ν) (node : ν) :
    (a.writeStart node).toList =
      '<' :: ((a.tagName node).toList ++ a.writtenAttrs node) ++ ['>'] := by
  simp only [writeStart, openTag, String.toList_append, toList_concat, writtenAttrs, flatMap_map]
  rfl

def writtenElements (a : Adapter ν) : Nat → ν → List ν
  | 0, _ => []
  | fuel + 1, node =>
    node :: if isVoid (a.tagName node) then []
      else (a.children node).flatMap (writtenElements a fuel)

def inTurn {α : Type} (size : ν → Nat) (layout : ν → Nat → List α) : List ν → Nat → List α
  | [], _ => []
  | node :: nodes, pos => layout node pos ++ inTurn size layout nodes (pos + size node)

theorem holds_inTurn {α : Type} {P : String → Nat → Prop} {write : ν → String}
    {layout : ν → Nat → List α} {e : α} {nodes : List ν} {pos : Nat}
    (hb : ∀ front back s pos, P s (pos + front.utf8ByteSize) → P (front ++ s ++ back) pos)
    (h : ∀ node ∈ nodes, ∀ pos, e ∈ layout node pos → P (write node) pos)
    (he : e ∈ inTurn (fun node => (write node).utf8ByteSize) layout nodes pos) :
    P ("".intercalate (nodes.map write)) pos := by
  induction nodes generalizing pos with
  | nil => cases he
  | cons node nodes ih =>
    rw [map_cons, joined_cons]
    obtain he | he := mem_append.mp he
    · have hs := hb "" ("".intercalate (nodes.map write)) _ _ (h node mem_cons_self pos he)
      rwa [String.empty_append] at hs
    · have hs := hb (write node) "" _ _ (ih (fun other ho => h other (mem_cons_of_mem node ho)) he)
      rwa [String.append_empty] at hs

/-- The elements that are written for a node, each with the byte at which its start tag begins. The
markup of the node begins at `pos`. -/
def layout (a : Adapter ν) : Nat → ν → Nat → List (ν × Nat)
  | 0, _, _ => []
  | fuel + 1, node, pos =>
    let tag := a.tagName node
    (node, pos) ::
      if isVoid tag then []
      else
        inTurn (fun child => (a.write fuel child).utf8ByteSize) (layout a fuel) (a.children node)
          (pos + (a.writeStart node).utf8ByteSize + (text tag (a.textContent node)).utf8ByteSize)

variable {a : Adapter ν} {node : ν}

theorem write_of_isVoid (h : isVoid (a.tagName node) = true) (fuel : Nat) :
    a.write (fuel + 1) node = a.writeStart node := if_pos h

theorem write_of_not_isVoid (h : isVoid (a.tagName node) = false) (fuel : Nat) :
    a.write (fuel + 1) node =
      a.writeStart node ++ text (a.tagName node) (a.textContent node) ++
        "".intercalate ((a.children node).map (a.write fuel)) ++ endTag (a.tagName node) := by
  rw [write, h, if_neg Bool.false_ne_true]

theorem layout_of_isVoid (h : isVoid (a.tagName node) = true) (fuel pos : Nat) :
    a.layout (fuel + 1) node pos = [(node, pos)] := by
  rw [layout, if_pos h]

theorem toList_write (h : isVoid (a.tagName node) = false) (fuel : Nat) :
    (a.write (fuel + 1) node).toList = (a.writeStart node).toList ++
      ((text (a.tagName node) (a.textContent node)).toList ++
        ((a.children node).flatMap (fun child => (a.write fuel child).toList) ++
          (endTag (a.tagName node)).toList)) := by
  simp only [write_of_not_isVoid h, String.toList_append, toList_concat, flatMap_map, append_assoc]

theorem layout_of_not_isVoid (h : isVoid (a.tagName node) = false) (fuel pos : Nat) :
    a.layout (fuel + 1) node pos =
      (node, pos) :: inTurn (fun child => (a.write fuel child).utf8ByteSize) (a.layout fuel)
        (a.children node) (pos + (a.writeStart node).utf8ByteSize +
          (text (a.tagName node) (a.textContent node)).utf8ByteSize) := by
  rw [layout, h]
  rfl

def tagAt (a : Adapter ν) (node : ν) (pos : Nat) : StartTag :=
  { name := a.tagName node
    start := pos
    stop := pos + (a.writeStart node).utf8ByteSize - 1 }

theorem tagAt_eq (a : Adapter ν) (node : ν) (pos : Nat) :
    a.tagAt node pos =
      { name := String.ofList (a.tagName node).toList
        start := pos
        stop := pos + width ('<' :: ((a.tagName node).toList ++ a.writtenAttrs node)) } := by
  have hw : (a.writeStart node).utf8ByteSize =
      width ('<' :: ((a.tagName node).toList ++ a.writtenAttrs node)) + 1 := by
    rw [← width_toList, toList_writeStart, width_append]
    rfl
  rw [tagAt, hw, String.ofList_toList]
  rfl

end Adapter

/-- An element is written so that its start tag and the end of its text can be told from the text
alone. Neither attribute values nor other texts matter for that. -/
structure Scannable (a : Adapter ν) (node : ν) : Prop where
  tag : isPlain (a.tagName node).toList = true
  attrs : ∀ name ∈ a.attrNames node, Unmarked name.toList
  leaf : a.tagName node ∈ rawTags → a.children node = []
  unended : a.tagName node ∈ rawTags →
    Unended (a.tagName node).toList (Written.text (a.tagName node) (a.textContent node)).toList
  template : a.tagName node = "template" → '<' ∉ (a.textContent node).toList

instance (a : Adapter ν) (node : ν) : Decidable (Scannable a node) :=
  decidable_of_iff
    (isPlain (a.tagName node).toList = true ∧
      (∀ name ∈ a.attrNames node, Unmarked name.toList) ∧
      (a.tagName node ∈ rawTags → a.children node = []) ∧
      (a.tagName node ∈ rawTags → Unended (a.tagName node).toList
        (Written.text (a.tagName node) (a.textContent node)).toList) ∧
      (a.tagName node = "template" → '<' ∉ (a.textContent node).toList))
    ⟨fun ⟨tag, attrs, leaf, unended, template⟩ => ⟨tag, attrs, leaf, unended, template⟩,
      fun h => ⟨h.tag, h.attrs, h.leaf, h.unended, h.template⟩⟩

namespace Scannable

open Written Adapter

variable {a : Adapter ν} {node root x : ν} {fuel pos : Nat}

theorem bracket_not_mem (h : Scannable a node) (hr : a.tagName node ∉ rawTags) :
    '<' ∉ (text (a.tagName node) (a.textContent node)).toList := by
  by_cases ht : a.tagName node = "template"
  · have hw : isRaw "template" = true := by decide
    rw [ht, text, hw]
    exact h.template ht
  · apply bracket_not_mem_text
    simp only [rawTags, mem_cons, not_or] at hr
    simp [isRaw, ht, hr]

theorem scans_writeStart (h : Scannable a node) (hr : a.tagName node ∉ rawTags) :
    Scans (a.writeStart node).toList fun pos => [a.tagAt node pos] := by
  simp only [toList_writeStart, tagAt_eq]
  apply scans_startTag h.tag (balanced_attrs h.attrs)
  rwa [String.ofList_toList]

theorem scans_rawText (h : Scannable a node) (hr : a.tagName node ∈ rawTags) :
    Scans ((a.writeStart node).toList ++
        ((text (a.tagName node) (a.textContent node)).toList ++ (endTag (a.tagName node)).toList))
      fun pos => [a.tagAt node pos] := by
  simp only [toList_writeStart, tagAt_eq, toList_endTag, append_assoc _ ['>']]
  apply scans_rawElement h.tag (balanced_attrs h.attrs) _ (h.unended hr)
  rwa [String.ofList_toList]

theorem scans_endTag (h : Scannable a node) :
    Scans (endTag (a.tagName node)).toList fun _ => [] := by
  rw [toList_endTag]
  apply StartTag.scans_endTag
  exact (isName_of_isPlain h.tag).not_mem.2

theorem scans_inTurn (fuel : Nat) {nodes : List ν}
    (h : ∀ node ∈ nodes, Scans (a.write fuel node).toList
      fun pos => (a.layout fuel node pos).map fun p => a.tagAt p.1 p.2) :
    Scans (nodes.flatMap fun node => (a.write fuel node).toList)
      fun pos => (inTurn (fun node => (a.write fuel node).utf8ByteSize) (a.layout fuel) nodes
        pos).map fun p => a.tagAt p.1 p.2 := by
  induction nodes with
  | nil => exact scans_text not_mem_nil
  | cons node nodes ih =>
    have hn := h node mem_cons_self
    have hs := hn.append (ih fun other ho => h other (mem_cons_of_mem node ho))
    simp only [flatMap_cons, inTurn, map_append]
    simpa only [width_toList] using hs

theorem scans_write (hs : ∀ x, Below a root x → Scannable a x) (hn : Below a root node) :
    Scans (a.write fuel node).toList
      fun pos => (a.layout fuel node pos).map fun p => a.tagAt p.1 p.2 := by
  induction fuel generalizing node with
  | zero => exact scans_text not_mem_nil
  | succ fuel ih =>
    have h := hs node hn
    cases hv : isVoid (a.tagName node) with
    | true =>
      simp only [write_of_isVoid hv, layout_of_isVoid hv]
      exact h.scans_writeStart (not_mem_rawTags hv)
    | false =>
      simp only [toList_write hv, layout_of_not_isVoid hv]
      by_cases hr : a.tagName node ∈ rawTags
      · simp only [h.leaf hr, flatMap_nil, nil_append, inTurn]
        exact h.scans_rawText hr
      · have hc := scans_inTurn fuel fun child hc => ih (hn.child hc)
        have := (h.scans_writeStart hr).append ((scans_text (h.bracket_not_mem hr)).append
          (hc.append h.scans_endTag))
        simpa only [width_toList, nil_append, append_nil, map_cons, Nat.add_assoc,
          singleton_append] using this

end Scannable

namespace Adapter

open Written

variable {a : Adapter ν} {node root x : ν} {fuel pos start : Nat}

theorem map_fst_inTurn {size : ν → Nat} {layout : ν → Nat → List (ν × Nat)}
    {elements : ν → List ν} (h : ∀ node pos, (layout node pos).map (·.1) = elements node)
    (nodes : List ν) (pos : Nat) :
    (inTurn size layout nodes pos).map (·.1) = nodes.flatMap elements := by
  induction nodes generalizing pos with
  | nil => rfl
  | cons node nodes ih => rw [inTurn, map_append, h, ih, flatMap_cons]

theorem map_fst_layout (a : Adapter ν) (fuel : Nat) (node : ν) (pos : Nat) :
    (a.layout fuel node pos).map (·.1) = a.writtenElements fuel node := by
  induction fuel generalizing node pos with
  | zero => rfl
  | succ fuel ih =>
    rw [writtenElements]
    cases hv : isVoid (a.tagName node) with
    | true =>
      rw [layout_of_isVoid hv]
      rfl
    | false =>
      rw [layout_of_not_isVoid hv, map_cons, map_fst_inTurn ih]
      rfl

/-- The start tag of `x` stands in a text at byte `start`, if the text begins at `pos`. -/
def StandsAt (a : Adapter ν) (x : ν) (start : Nat) (s : String) (pos : Nat) : Prop :=
  ∃ front back, s = front ++ a.writeStart x ++ back ∧ pos + front.utf8ByteSize = start

theorem StandsAt.between {s : String} (front back : String)
    (h : a.StandsAt x start s (pos + front.utf8ByteSize)) :
    a.StandsAt x start (front ++ s ++ back) pos := by
  obtain ⟨before, behind, rfl, hp⟩ := h
  refine ⟨front ++ before, behind ++ back, ?_, ?_⟩
  · simp only [String.append_assoc]
  · rw [String.utf8ByteSize_append, ← Nat.add_assoc, hp]

theorem standsAt_write (hx : (x, start) ∈ a.layout fuel node pos) :
    a.StandsAt x start (a.write fuel node) pos := by
  induction fuel generalizing node pos with
  | zero => cases hx
  | succ fuel ih =>
    have hself (back : String) : a.StandsAt node pos (a.writeStart node ++ back) pos :=
      ⟨"", back, by rw [String.empty_append], rfl⟩
    cases hv : isVoid (a.tagName node) with
    | true =>
      rw [layout_of_isVoid hv] at hx
      rw [write_of_isVoid hv]
      cases mem_singleton.mp hx
      have hs := hself ""
      rwa [String.append_empty] at hs
    | false =>
      rw [layout_of_not_isVoid hv] at hx
      rw [write_of_not_isVoid hv]
      rcases mem_cons.mp hx with hx | hx
      · cases hx
        simp only [String.append_assoc]
        exact hself _
      · rw [Nat.add_assoc, ← String.utf8ByteSize_append] at hx
        refine (holds_inTurn (P := a.StandsAt x start) ?_ (fun child _ pos hx => ?_) hx).between _ _
        · exact fun front back _ _ => .between front back
        · exact ih hx

/-- The scanner of start tags finds those of the elements that are written, in their order, and each
from its `<` to its `>`. -/
theorem scan_outerHtml (he : a.isElement root = true)
    (hs : ∀ x, Below a root x → Scannable a x) :
    scan (a.outerHtml root) =
        (a.layout (a.height + 1) root 0).map (fun p => a.tagAt p.1 p.2) ∧
      (a.layout (a.height + 1) root 0).map (·.1) = a.writtenElements (a.height + 1) root ∧
      ∀ x start, (x, start) ∈ a.layout (a.height + 1) root 0 →
        ∃ front back, a.outerHtml root = front ++ a.writeStart x ++ back ∧
          front.utf8ByteSize = start := by
  have hw : a.outerHtml root = a.write (a.height + 1) root := if_pos he
  refine ⟨?_, map_fst_layout a _ root 0, fun x start hx => ?_⟩
  · rw [hw, scan_eq]
    exact (Scannable.scans_write hs .head).scanFrom 0
  · obtain ⟨front, back, h, hf⟩ := standsAt_write hx
    exact ⟨front, back, hw.trans h, (Nat.zero_add _).symm.trans hf⟩

end Adapter

theorem Below.mem_of_closed {a : Adapter ν} {root x : ν} {nodes : List ν} (hr : root ∈ nodes)
    (hc : ∀ x ∈ nodes, ∀ c ∈ a.children x, c ∈ nodes) (h : Below a root x) : x ∈ nodes := by
  induction h with
  | head => exact hr
  | child _ hx ih => exact hc _ ih _ hx

def spikedEdits : List Live.Edit :=
  [.createElement "html" [("lang", "\"<'>")], .createElement "head" [], .createElement "title" [],
    .createText "</title>", .createElement "meta" [("content", "é>"), ("async", "")],
    .createElement "b" [], .createElement "script" [], .createText "if (a</b/.c) d = '</scrip'",
    .createElement "p" [], .appendChild .root ⟨1⟩, .appendChild ⟨1⟩ ⟨2⟩, .appendChild ⟨2⟩ ⟨3⟩,
    .appendChild ⟨3⟩ ⟨4⟩, .appendChild ⟨2⟩ ⟨5⟩, .appendChild ⟨5⟩ ⟨6⟩, .appendChild ⟨2⟩ ⟨7⟩,
    .appendChild ⟨7⟩ ⟨8⟩, .appendChild ⟨1⟩ ⟨9⟩]

def spiked : Adapter Live.NodeId := (Live.Tree.empty.run spikedEdits).adapter

def spikedElements : List Live.NodeId := [⟨1⟩, ⟨2⟩, ⟨3⟩, ⟨5⟩, ⟨6⟩, ⟨7⟩, ⟨9⟩]

theorem scan_outerHtml_spiked :
    scan (spiked.outerHtml ⟨1⟩) =
      [⟨"html", 0, 22⟩, ⟨"head", 23, 28⟩, ⟨"title", 29, 35⟩, ⟨"meta", 58, 86⟩,
        ⟨"script", 87, 94⟩, ⟨"p", 137, 139⟩] := by
  have hs : ∀ x ∈ spikedElements, Scannable spiked x := by decide +kernel
  have hc : ∀ x ∈ spikedElements, ∀ c ∈ spiked.children x, c ∈ spikedElements := by decide +kernel
  have he : spiked.isElement ⟨1⟩ = true := by decide +kernel
  have h := Adapter.scan_outerHtml he
    fun x hx => hs x (hx.mem_of_closed (by decide) hc)
  rw [h.1]
  decide +kernel

end HeadAudit

import HeadAudit.Markup.Builder

namespace HeadAudit.Markup.Builder

/-- The end tag of an element without a rule of its own: close up to it, unless a special element
stands open inside it. -/
def closeNamed (name : String) (b : Builder) : Builder :=
  if within (·.isIn Vocabulary.special) (·.isHtml name) b.opened then b.popThrough [name] else b

inductive Bookmark where
  | inPlace
  | behind (id : Nat)

namespace Bookmark

def settle (id : Nat) (new : Mark) (marks : List Mark) : Bookmark → List Mark
  | inPlace => marks.map fun m => if m.isFor id then new else m
  | behind previous =>
    (marks.flatMap fun m => if m.isFor previous then [new, m] else [m]).filter
      (!·.isFor id)

end Bookmark

/-- The state on the way from the block out to the formatting element: the node that moves last, the
elements that stay open with the innermost first, and the bookmark. -/
structure Climb where
  builder : Builder
  last : Nat
  kept : List Opened
  bookmark : Bookmark

namespace Climb

/-- Pass an element. The first three that carry a mark are copied around what has moved; others are
no longer open. -/
def pass (block : Nat) (c : Climb) (o : Opened) (rank : Nat) : Climb :=
  let mark := (marked c.builder.marks).lookup o.id
  match mark with
  | some tag =>
    if 3 ≤ rank then { c with builder := c.builder.dropMark o.id }
    else
      let (b, copy) := c.builder.make .html tag
      { builder :=
          { b with
            draft := b.draft.move (.under copy.id) c.last
            marks := b.marks.map fun m => if m.isFor o.id then .element copy.id tag else m }
        last := copy.id
        kept := c.kept ++ [copy]
        bookmark := if c.last == block then .behind copy.id else c.bookmark }
  | none => c

def passAll (block : Nat) (c : Climb) (between : List Opened) : Climb :=
  between.zipIdx.foldl (fun c (o, rank) => c.pass block o rank) c

end Climb

/-- Move the outermost block out of formatting element `o`. The open elements are `below`, the
block, `between`, the formatting element and `outer`. -/
def moveOut (o : Opened) (tag : Tag) (below : List Opened) (block : Opened)
    (between outer : List Opened) (b : Builder) : Builder :=
  let c := Climb.passAll block.id ⟨b, block.id, [], .inPlace⟩ between
  let b := { c.builder with opened := below ++ block :: (c.kept ++ o :: outer) }
  let spot := outer.head?.elim b.spot b.spotFor
  let b := { b with draft := b.draft.move spot c.last }
  let (b, copy) := b.make .html tag
  { b with
    draft := (b.draft.moveChildren block.id copy.id).move (.under block.id) copy.id
    marks := c.bookmark.settle o.id (.element copy.id tag) b.marks
    opened := below ++ copy :: block :: (c.kept ++ outer) }

def adoptOnce (name : String) (b : Builder) : Builder × Bool :=
  match (marked b.marks).find? (·.2.name == name) with
  | none => (b.closeNamed name, false)
  | some (id, tag) =>
    match b.opened.span (·.id != id) with
    | (_, []) => (b.dropMark id, false)
    | (inner, o :: outer) =>
      if !within Opened.isBoundary (·.id == id) b.opened then (b, false)
      else
        match inner.reverse.span (!·.isIn Vocabulary.special) with
        | (_, []) => ({ b with opened := outer }.dropMark id, false)
        | (between, block :: below) =>
          (b.moveOut o tag below.reverse block between.reverse outer, true)

def adopt (name : String) : Nat → Builder → Builder
  | 0, b => b
  | n + 1, b =>
    match b.adoptOnce name with
    | (b, true) => adopt name n b
    | (b, false) => b

def closeFormatting (name : String) (b : Builder) : Builder :=
  let unmarked := b.current?.any fun o => o.isHtml name && !b.marks.any (·.isFor o.id)
  if unmarked then b.pop else b.adopt name 8

end HeadAudit.Markup.Builder

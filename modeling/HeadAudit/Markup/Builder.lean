import HeadAudit.Markup.Draft
import HeadAudit.Markup.Foreign
import HeadAudit.Markup.Vocabulary

namespace HeadAudit.Markup

inductive Mode where
  | initial
  | beforeHtml
  | beforeHead
  | inHead
  | afterHead
  | inBody
  | inText
  | inTable
  | inTableText
  | inCaption
  | inColumnGroup
  | inTableBody
  | inRow
  | inCell
  | inSelect
  | inSelectInTable
  | inTemplate
  | afterBody
  | inFrameset
  | afterFrameset
  | afterAfterBody
  | afterAfterFrameset
  deriving DecidableEq

structure Opened where
  id : Nat
  space : Space
  name : String
  annotatesHtml : Bool

namespace Opened

def isIn (names : List String) (o : Opened) : Bool := o.space == .html && o.name ∈ names

def isHtml (name : String) (o : Opened) : Bool := o.isIn [name]

def holdsText (o : Opened) : Bool := o.space == .mathml && o.name ∈ Foreign.mathTexts

def holdsHtml (o : Opened) : Bool := o.space == .svg && o.name ∈ Foreign.htmlHolders

/-- What ends a look-up among the open elements. -/
def isBoundary (o : Opened) : Bool :=
  o.isIn Vocabulary.scopeBoundaries || o.holdsText || o.holdsHtml

def isListBoundary (o : Opened) : Bool := o.isBoundary || o.isIn ["ol", "ul"]

def isButtonBoundary (o : Opened) : Bool := o.isBoundary || o.isHtml "button"

def isTableBoundary (o : Opened) : Bool := o.isIn Vocabulary.tableScopeBoundaries

def isSelectBoundary (o : Opened) : Bool := !o.isIn ["optgroup", "option"]

end Opened

inductive Mark where
  /-- Formatting from before a marker is not opened again behind it. -/
  | marker
  | element (id : Nat) (tag : Tag)

namespace Mark

def isFor (id : Nat) : Mark → Bool
  | marker => false
  | element id' _ => id' == id

end Mark

/-- The list of open elements starts with the innermost, and the list of marks with the latest. -/
structure Builder where
  draft : Draft
  mode : Mode
  opened : List Opened
  marks : List Mark
  resume : Mode
  templateModes : List Mode
  head : Option Nat
  form : Option Nat
  framesetAllowed : Bool
  /-- What stands in a table but belongs in no table goes in front of it. -/
  fostering : Bool
  isOldPage : Bool
  skipBreak : Bool
  tableText : List Token
  textMode : TextMode

inductive Outcome where
  | done (b : Builder)
  | again (b : Builder) (t : Token)

def Outcome.builder : Outcome → Builder
  | done b | again b _ => b

namespace Builder

def start : Builder where
  draft := .empty
  mode := .initial
  opened := []
  marks := []
  resume := .initial
  templateModes := []
  head := none
  form := none
  framesetAllowed := true
  fostering := false
  isOldPage := false
  skipBreak := false
  tableText := []
  textMode := .markup

def into (mode : Mode) (b : Builder) : Builder := { b with mode }

def forbidFrameset (b : Builder) : Builder := { b with framesetAllowed := false }

section Opened

def current? (b : Builder) : Option Opened := b.opened.head?

def isAt (names : List String) (b : Builder) : Bool := b.current?.any (·.isIn names)

def holds (name : String) (b : Builder) : Bool := b.opened.any (·.isHtml name)

/-- An element that satisfies `p` stands open, and no boundary inside it. -/
def within (boundary p : Opened → Bool) : List Opened → Bool
  | [] => false
  | o :: os => p o || (!boundary o && within boundary p os)

def inScope (names : List String) (b : Builder) : Bool :=
  within Opened.isBoundary (·.isIn names) b.opened

def inButtonScope (names : List String) (b : Builder) : Bool :=
  within Opened.isButtonBoundary (·.isIn names) b.opened

def inTableScope (names : List String) (b : Builder) : Bool :=
  within Opened.isTableBoundary (·.isIn names) b.opened

def inSelectScope (b : Builder) : Bool :=
  within Opened.isSelectBoundary (·.isHtml "select") b.opened

def pop (b : Builder) : Builder := { b with opened := b.opened.drop 1 }

def popWhile (p : Opened → Bool) (b : Builder) : Builder :=
  { b with opened := b.opened.dropWhile p }

def popThrough (names : List String) (b : Builder) : Builder :=
  (b.popWhile (!·.isIn names)).pop

def closeImplied (b : Builder) : Builder := b.popWhile (·.isIn Vocabulary.impliedEnd)

def closeImpliedBut (name : String) (b : Builder) : Builder :=
  b.popWhile fun o => o.isIn Vocabulary.impliedEnd && o.name != name

def forget (id : Nat) (b : Builder) : Builder :=
  { b with opened := b.opened.filter (·.id != id) }

def closeParagraph (b : Builder) : Builder :=
  if b.inButtonScope ["p"] then (b.closeImpliedBut "p").popThrough ["p"] else b

end Opened

section Insertion

/-- Where a node goes that belongs under an open element: the content of a template is apart. -/
def spotUnder (b : Builder) (o : Opened) : Draft.Spot :=
  .under (if o.isHtml "template" then (b.draft.template? o.id).getD o.id else o.id)

/-- In front of the innermost table, or in the innermost template inside which there is no table. -/
def fosterSpot (b : Builder) : List Opened → Draft.Spot
  | [] => .under 0
  | [o] => b.spotUnder o
  | o :: outer :: os =>
    if o.isHtml "template" then b.spotUnder o
    else if o.isHtml "table" then
      if (b.draft.parent? o.id).isSome then .before o.id else .under outer.id
    else fosterSpot b (outer :: os)

def spotFor (b : Builder) (target : Opened) : Draft.Spot :=
  if b.fostering && target.isIn ("table" :: "tr" :: Vocabulary.rowGroups) then
    b.fosterSpot b.opened
  else b.spotUnder target

def spot (b : Builder) : Draft.Spot :=
  match b.current? with
  | some o => b.spotFor o
  | none => .under 0

def addText (s : String) (b : Builder) : Builder :=
  { b with draft := b.draft.insertText b.spot s }

def addComment (s : String) (b : Builder) : Builder :=
  { b with draft := b.draft.insertComment b.spot s }

def addTopComment (s : String) (b : Builder) : Builder :=
  { b with draft := b.draft.insertComment (.under 0) s }

def make (space : Space) (tag : Tag) (b : Builder) : Builder × Opened :=
  let (draft, id) :=
    if space == .html && tag.name == "template" then b.draft.addTemplate tag.attrs
    else b.draft.addElement tag.name tag.attrs
  let annotatesHtml := space == .mathml && Foreign.annotatesHtml tag
  ({ b with draft }, { id, space, name := tag.name, annotatesHtml })

def place (space : Space) (tag : Tag) (b : Builder) : Builder × Opened :=
  let spot := b.spot
  let (b, o) := b.make space tag
  ({ b with draft := b.draft.move spot o.id }, o)

def openIn (space : Space) (tag : Tag) (b : Builder) : Builder :=
  let (b, o) := b.place space tag
  { b with opened := o :: b.opened }

def insert (tag : Tag) (b : Builder) : Builder := b.openIn .html tag

def insertEmpty (tag : Tag) (b : Builder) : Builder := (b.place .html tag).1

def insertImplied (name : String) (b : Builder) : Builder := b.insert ⟨name, [], false⟩

def insertText (textMode : TextMode) (tag : Tag) (b : Builder) : Builder :=
  { b.insert tag with resume := b.mode, mode := .inText, textMode }

def insertRoot (attrs : List (String × String)) (b : Builder) : Builder :=
  b.insert ⟨"html", attrs, false⟩

def insertHead (attrs : List (String × String)) (b : Builder) : Builder :=
  let b := b.insert ⟨"head", attrs, false⟩
  { b with head := b.current?.map (·.id) }

end Insertion

section Formatting

def addMarker (b : Builder) : Builder := { b with marks := .marker :: b.marks }

def clearMarks (b : Builder) : Builder :=
  { b with marks := (b.marks.dropWhile fun | .marker => false | _ => true).drop 1 }

def isOpen (id : Nat) (b : Builder) : Bool := b.opened.any (·.id == id)

def dropMark (id : Nat) (b : Builder) : Builder :=
  { b with marks := b.marks.filter (!·.isFor id) }

def marked : List Mark → List (Nat × Tag)
  | .element id tag :: marks => (id, tag) :: marked marks
  | _ => []

def alike (s t : Tag) : Bool :=
  s.name == t.name && s.attrs.length == t.attrs.length && s.attrs.all (t.attrs.contains ·)

/-- Of four marks that are alike the earliest goes. -/
def addMark (id : Nat) (tag : Tag) (b : Builder) : Builder :=
  let earlier := (marked b.marks).filter fun (_, t) => alike tag t
  let b := match earlier[2]? with
    | some _ => (earlier.getLast?).elim b fun (oldest, _) => b.dropMark oldest
    | none => b
  { b with marks := .element id tag :: b.marks }

def insertFormatting (tag : Tag) (b : Builder) : Builder :=
  let b := b.insert tag
  b.current?.elim b fun o => b.addMark o.id tag

/-- Open again the formatting elements that were marked last and are not open, the earliest
first. -/
def reopen (b : Builder) : Builder :=
  go b.marks b
where
  go : List Mark → Builder → Builder
    | [], b => b
    | .marker :: _, b => b
    | .element id tag :: marks, b =>
      if b.isOpen id then b
      else
        let b := (go marks b).insert tag
        let new := (b.current?.map (·.id)).getD id
        { b with marks := b.marks.map fun m => if m.isFor id then .element new tag else m }

end Formatting

def selectMode : List Opened → Mode
  | [] => .inSelect
  | o :: os =>
    if o.isHtml "template" then .inSelect
    else if o.isHtml "table" then .inSelectInTable
    else selectMode os

def modeFor (b : Builder) : List Opened → Mode
  | [] => .inBody
  | o :: os =>
    let last := os.isEmpty
    if o.isHtml "select" then selectMode os
    else if o.isIn Vocabulary.cells && !last then .inCell
    else if o.isHtml "tr" then .inRow
    else if o.isIn Vocabulary.rowGroups then .inTableBody
    else if o.isHtml "caption" then .inCaption
    else if o.isHtml "colgroup" then .inColumnGroup
    else if o.isHtml "table" then .inTable
    else if o.isHtml "template" then b.templateModes.headD .inBody
    else if o.isHtml "head" && !last then .inHead
    else if o.isHtml "body" then .inBody
    else if o.isHtml "frameset" then .inFrameset
    else if o.isHtml "html" then if b.head.isSome then .afterHead else .beforeHead
    else modeFor b os

def resetMode (b : Builder) : Builder := b.into (b.modeFor b.opened)

end Builder

end HeadAudit.Markup

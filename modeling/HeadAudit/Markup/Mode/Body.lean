import HeadAudit.Markup.Adoption
import HeadAudit.Markup.Mode.Head

namespace HeadAudit.Markup.Builder

section StartTags

def addBodyAttributes (tag : Tag) (b : Builder) : Builder :=
  match b.opened.reverse with
  | _ :: body :: _ =>
    if body.isHtml "body" && !b.holds "template" then
      { b.forbidFrameset with draft := b.draft.addAttributes body.id tag.attrs }
    else b
  | _ => b

/-- A frameset takes the place of a body without visible content. -/
def insertFrameset (tag : Tag) (b : Builder) : Builder :=
  match b.opened.reverse with
  | root :: body :: _ =>
    if b.framesetAllowed && body.isHtml "body" then
      ({ b with draft := b.draft.detach body.id, opened := [root] }.insert tag).into .inFrameset
    else b
  | _ => b

def insertBlock (tag : Tag) (b : Builder) : Builder := b.closeParagraph.insert tag

def insertHeading (tag : Tag) (b : Builder) : Builder :=
  let b := b.closeParagraph
  (if b.isAt Vocabulary.headings then b.pop else b).insert tag

def insertPreformatted (tag : Tag) (b : Builder) : Builder :=
  { (b.insertBlock tag).forbidFrameset with skipBreak := true }

def insertForm (tag : Tag) (b : Builder) : Builder :=
  if b.holds "template" then b.insertBlock tag
  else if b.form.isSome then b
  else
    let b := b.insertBlock tag
    { b with form := b.current?.map (·.id) }

/-- The innermost item with one of the names, if no other special element stands open inside it. -/
def item? (names : List String) : List Opened → Option String
  | [] => none
  | o :: os =>
    if o.isIn names then some o.name
    else if o.isIn Vocabulary.special && !o.isIn ["address", "div", "p"] then none
    else item? names os

def insertItem (names : List String) (tag : Tag) (b : Builder) : Builder :=
  let b := b.forbidFrameset
  let b := (item? names b.opened).elim b fun name => (b.closeImpliedBut name).popThrough [name]
  b.insertBlock tag

def insertButton (tag : Tag) (b : Builder) : Builder :=
  let b := if b.inScope ["button"] then b.closeImplied.popThrough ["button"] else b
  (b.reopen.insert tag).forbidFrameset

def insertLink (tag : Tag) (b : Builder) : Builder :=
  let b := ((marked b.marks).find? (·.2.name == "a")).elim b fun (id, _) =>
    ((b.closeFormatting "a").dropMark id).forget id
  b.reopen.insertFormatting tag

def insertNobr (tag : Tag) (b : Builder) : Builder :=
  let b := b.reopen
  let b := if b.inScope ["nobr"] then (b.closeFormatting "nobr").reopen else b
  b.insertFormatting tag

def insertEmbedded (tag : Tag) (b : Builder) : Builder :=
  (b.reopen.insert tag).addMarker.forbidFrameset

def insertTable (tag : Tag) (b : Builder) : Builder :=
  let b := if b.isOldPage then b else b.closeParagraph
  ((b.insert tag).forbidFrameset).into .inTable

def isHidden (tag : Tag) : Bool := (tag.attrs.lookup "type").any (Ascii.same · "hidden")

def insertInput (tag : Tag) (b : Builder) : Builder :=
  let b := b.reopen.insertEmpty tag
  if isHidden tag then b else b.forbidFrameset

def isInTable (mode : Mode) : Bool :=
  mode ∈ [.inTable, .inCaption, .inTableBody, .inRow, .inCell]

def insertSelect (tag : Tag) (b : Builder) : Builder :=
  ((b.reopen.insert tag).forbidFrameset).into
    (if isInTable b.mode then .inSelectInTable else .inSelect)

def insertOption (tag : Tag) (b : Builder) : Builder :=
  (if b.isAt ["option"] then b.pop else b).reopen.insert tag

def insertRuby (tag : Tag) (b : Builder) : Builder :=
  let b :=
    if b.inScope ["ruby"] then
      if tag.name ∈ ["rp", "rt"] then b.closeImpliedBut "rtc" else b.closeImplied
    else b
  b.insert tag

def insertForeign (space : Space) (tag : Tag) (b : Builder) : Builder :=
  let tag := Foreign.withAttributesOf space tag
  if tag.selfClosing then (b.reopen.place space tag).1 else b.reopen.openIn space tag

def visibleVoids : List String := ["area", "br", "embed", "img", "keygen", "wbr"]

def openInBody (tag : Tag) (b : Builder) : Builder :=
  let name := tag.name
  if name == "html" then b.addRootAttributes tag
  else if name ∈ Vocabulary.metadata then b.insertMetadata tag
  else if name == "body" then b.addBodyAttributes tag
  else if name == "frameset" then b.insertFrameset tag
  else if name ∈ Vocabulary.blocks then b.insertBlock tag
  else if name ∈ Vocabulary.headings then b.insertHeading tag
  else if name ∈ ["listing", "pre"] then b.insertPreformatted tag
  else if name == "form" then b.insertForm tag
  else if name == "li" then b.insertItem ["li"] tag
  else if name ∈ ["dd", "dt"] then b.insertItem ["dd", "dt"] tag
  else if name == "plaintext" then { b.insertBlock tag with textMode := .plain }
  else if name == "button" then b.insertButton tag
  else if name == "a" then b.insertLink tag
  else if name == "nobr" then b.insertNobr tag
  else if name ∈ Vocabulary.formatting then b.reopen.insertFormatting tag
  else if name ∈ Vocabulary.embedded then b.insertEmbedded tag
  else if name == "table" then b.insertTable tag
  else if name ∈ visibleVoids then (b.reopen.insertEmpty tag).forbidFrameset
  else if name == "image" then (b.reopen.insertEmpty { tag with name := "img" }).forbidFrameset
  else if name == "input" then b.insertInput tag
  else if name ∈ ["param", "source", "track"] then b.insertEmpty tag
  else if name == "hr" then (b.closeParagraph.insertEmpty tag).forbidFrameset
  else if name == "textarea" then
    { b.forbidFrameset.insertText (.escapable name) tag with skipBreak := true }
  else if name == "xmp" then b.closeParagraph.reopen.forbidFrameset.insertText (.raw name) tag
  else if name == "iframe" then b.forbidFrameset.insertText (.raw name) tag
  else if name ∈ ["noembed", "noscript"] then b.insertText (.raw name) tag
  else if name == "select" then b.insertSelect tag
  else if name ∈ ["optgroup", "option"] then b.insertOption tag
  else if name ∈ ["rb", "rp", "rt", "rtc"] then b.insertRuby tag
  else if name == "math" then b.insertForeign .mathml tag
  else if name == "svg" then b.insertForeign .svg tag
  else if name ∈ "frame" :: "head" :: Vocabulary.tableParts then b
  else b.reopen.insert tag

end StartTags

section EndTags

def closeInScope (name : String) (b : Builder) : Builder :=
  if b.inScope [name] then b.closeImplied.popThrough [name] else b

def closeForm (b : Builder) : Builder :=
  if b.holds "template" then b.closeInScope "form"
  else
    let id := b.form
    let b := { b with form := none }
    match id with
    | some id =>
      if within Opened.isBoundary (·.id == id) b.opened then b.closeImplied.forget id else b
    | none => b

/-- The end of a paragraph that is not open stands for an empty one. -/
def endParagraph (b : Builder) : Builder :=
  (if b.inButtonScope ["p"] then b else b.insertImplied "p").closeParagraph

def closeItem (boundary : Opened → Bool) (name : String) (b : Builder) : Builder :=
  if within boundary (·.isHtml name) b.opened then (b.closeImpliedBut name).popThrough [name]
  else b

def closeHeading (b : Builder) : Builder :=
  if b.inScope Vocabulary.headings then b.closeImplied.popThrough Vocabulary.headings else b

def closeEmbedded (name : String) (b : Builder) : Builder :=
  if b.inScope [name] then (b.closeImplied.popThrough [name]).clearMarks else b

def closeInBody (name : String) (b : Builder) : Builder :=
  if name == "template" then b.closeTemplate
  else if name ∈ Vocabulary.closedAsBlocks then b.closeInScope name
  else if name == "form" then b.closeForm
  else if name == "p" then b.endParagraph
  else if name == "li" then b.closeItem Opened.isListBoundary name
  else if name ∈ ["dd", "dt"] then b.closeItem Opened.isBoundary name
  else if name ∈ Vocabulary.headings then b.closeHeading
  else if name ∈ Vocabulary.formatting then b.closeFormatting name
  else if name ∈ Vocabulary.embedded then b.closeEmbedded name
  else if name == "br" then (b.reopen.insertEmpty ⟨name, [], false⟩).forbidFrameset
  else b.closeNamed name

end EndTags

def readInBody (b : Builder) (t : Token) : Outcome :=
  match t with
  | .blank s => .done (b.reopen.addText s)
  | .text s => .done (b.reopen.forbidFrameset.addText s)
  | .comment s => .done (b.addComment s)
  | .opening tag => .done (b.openInBody tag)
  | .closing name =>
    if name == "body" then .done (if b.inScope [name] then b.into .afterBody else b)
    else if name == "html" then
      if b.inScope ["body"] then .again (b.into .afterBody) t else .done b
    else .done (b.closeInBody name)
  | .eof => if b.templateModes.isEmpty then .done b else b.endTemplates
  | .doctype _ | .null | .fault => .done b

end HeadAudit.Markup.Builder

import HeadAudit.Markup.Builder
import HeadAudit.Markup.Doctype

namespace HeadAudit.Markup.Builder

def addRootAttributes (tag : Tag) (b : Builder) : Builder :=
  if b.holds "template" then b
  else
    match b.opened.getLast? with
    | some root => { b with draft := b.draft.addAttributes root.id tag.attrs }
    | none => b

section Template

def openTemplate (tag : Tag) (b : Builder) : Builder :=
  let b := (b.addMarker.forbidFrameset.into .inTemplate).insert tag
  { b with templateModes := .inTemplate :: b.templateModes }

def leaveTemplate (b : Builder) : Builder :=
  let b := (b.popThrough ["template"]).clearMarks
  { b with templateModes := b.templateModes.drop 1 }.resetMode

def closeTemplate (b : Builder) : Builder :=
  if b.holds "template" then (b.popWhile (·.isIn Vocabulary.impliedEndInTable)).leaveTemplate else b

def endTemplates (b : Builder) : Outcome :=
  if b.holds "template" then .again b.leaveTemplate .eof else .done b

end Template

def insertMetadata (tag : Tag) (b : Builder) : Builder :=
  if tag.name == "title" then b.insertText (.escapable tag.name) tag
  else if tag.name ∈ ["noframes", "noscript", "style"] then b.insertText (.raw tag.name) tag
  else if tag.name == "script" then b.insertText .script tag
  else if tag.name == "template" then b.openTemplate tag
  else b.insertEmpty tag

def closesPage (name : String) : Bool := name ∈ ["body", "br", "html"]

def readInitial (b : Builder) : Token → Outcome
  | .blank _ => .done b
  | .comment s => .done (b.addTopComment s)
  | t => .again ({ b with isOldPage := true }.into .beforeHtml) t

/-- A document type counts only at the start. -/
def readDoctype (d : Doctype) (b : Builder) : Builder :=
  if b.mode == .initial then
    let (draft, id) := b.draft.add (.doctype d.name)
    { b with draft := draft.move (.under 0) id, isOldPage := d.isOld }.into .beforeHtml
  else b

def readBeforeHtml (b : Builder) (t : Token) : Outcome :=
  let create := Outcome.again ((b.insertRoot []).into .beforeHead) t
  match t with
  | .blank _ => .done b
  | .comment s => .done (b.addTopComment s)
  | .opening tag =>
    if tag.name == "html" then .done ((b.insertRoot tag.attrs).into .beforeHead) else create
  | .closing name => if closesPage name || name == "head" then create else .done b
  | _ => create

def readBeforeHead (b : Builder) (t : Token) : Outcome :=
  let create := Outcome.again ((b.insertHead []).into .inHead) t
  match t with
  | .blank _ => .done b
  | .comment s => .done (b.addComment s)
  | .opening tag =>
    if tag.name == "html" then .done (b.addRootAttributes tag)
    else if tag.name == "head" then .done ((b.insertHead tag.attrs).into .inHead)
    else create
  | .closing name => if closesPage name || name == "head" then create else .done b
  | _ => create

def readInHead (b : Builder) (t : Token) : Outcome :=
  let leave := Outcome.again (b.pop.into .afterHead) t
  match t with
  | .blank s => .done (b.addText s)
  | .comment s => .done (b.addComment s)
  | .opening tag =>
    if tag.name == "html" then .done (b.addRootAttributes tag)
    else if tag.name ∈ "noscript" :: Vocabulary.metadata then .done (b.insertMetadata tag)
    else if tag.name == "head" then .done b
    else leave
  | .closing name =>
    if name == "head" then .done (b.pop.into .afterHead)
    else if name == "template" then .done b.closeTemplate
    else if closesPage name then leave
    else .done b
  | _ => leave

/-- Metadata behind the head still goes into it. -/
def insertLate (tag : Tag) (b : Builder) : Builder :=
  match b.head with
  | some id =>
    let inHead := { b with opened := ⟨id, .html, "head", false⟩ :: b.opened }
    (inHead.insertMetadata tag).forget id
  | none => b

def readAfterHead (b : Builder) (t : Token) : Outcome :=
  let create := Outcome.again ((b.insertImplied "body").into .inBody) t
  match t with
  | .blank s => .done (b.addText s)
  | .comment s => .done (b.addComment s)
  | .opening tag =>
    if tag.name == "html" then .done (b.addRootAttributes tag)
    else if tag.name == "body" then .done ((b.insert tag).forbidFrameset.into .inBody)
    else if tag.name == "frameset" then .done ((b.insert tag).into .inFrameset)
    else if tag.name ∈ Vocabulary.metadata then .done (b.insertLate tag)
    else if tag.name == "head" then .done b
    else create
  | .closing name =>
    if name == "template" then .done b.closeTemplate
    else if closesPage name then create
    else .done b
  | _ => create

def readInText (b : Builder) : Token → Outcome
  | .blank s | .text s => .done (b.addText s)
  | .closing _ => .done (b.pop.into b.resume)
  | .eof => .again (b.pop.into b.resume) .eof
  | _ => .done b

end HeadAudit.Markup.Builder

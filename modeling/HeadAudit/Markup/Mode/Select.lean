import HeadAudit.Markup.Mode.Body

namespace HeadAudit.Markup.Builder

def leaveSelect (b : Builder) : Builder := (b.popThrough ["select"]).resetMode

def closeSelect (b : Builder) : Builder := if b.inSelectScope then b.leaveSelect else b

def openInSelect (tag : Tag) (b : Builder) : Outcome :=
  let name := tag.name
  let outsideOption := if b.isAt ["option"] then b.pop else b
  let outsideGroup := if outsideOption.isAt ["optgroup"] then outsideOption.pop else outsideOption
  if name == "html" then .done (b.addRootAttributes tag)
  else if name == "option" then .done (outsideOption.insert tag)
  else if name == "optgroup" then .done (outsideGroup.insert tag)
  else if name == "hr" then .done (outsideGroup.insertEmpty tag)
  else if name == "select" then .done b.closeSelect
  else if name ∈ ["input", "keygen", "textarea"] then
    if b.inSelectScope then .again b.leaveSelect (.opening tag) else .done b
  else if name ∈ ["script", "template"] then .done (b.insertMetadata tag)
  else .done b

/-- The end of a group is also the end of an option directly in it. -/
def closeGroup (b : Builder) : Builder :=
  let inGroup := (b.opened[1]?).any (·.isHtml "optgroup")
  let b := if b.isAt ["option"] && inGroup then b.pop else b
  if b.isAt ["optgroup"] then b.pop else b

def closeInSelect (name : String) (b : Builder) : Builder :=
  if name == "optgroup" then b.closeGroup
  else if name == "option" then if b.isAt ["option"] then b.pop else b
  else if name == "select" then b.closeSelect
  else if name == "template" then b.closeTemplate
  else b

def readInSelect (b : Builder) (t : Token) : Outcome :=
  match t with
  | .blank s | .text s => .done (b.addText s)
  | .comment s => .done (b.addComment s)
  | .opening tag => b.openInSelect tag
  | .closing name => .done (b.closeInSelect name)
  | .eof => b.readInBody t
  | .doctype _ | .null | .fault => .done b

def closesSelect : List String :=
  ["caption", "table", "tr"] ++ Vocabulary.rowGroups ++ Vocabulary.cells

def readInSelectInTable (b : Builder) (t : Token) : Outcome :=
  match t with
  | .opening tag =>
    if tag.name ∈ closesSelect then .again b.leaveSelect t else b.readInSelect t
  | .closing name =>
    if name ∈ closesSelect then
      if b.inTableScope [name] then .again b.leaveSelect t else .done b
    else b.readInSelect t
  | _ => b.readInSelect t

end HeadAudit.Markup.Builder

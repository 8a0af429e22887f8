import HeadAudit.Markup.Mode.Body

namespace HeadAudit.Markup.Builder

def turnTemplate (mode : Mode) (b : Builder) : Builder :=
  { b with templateModes := mode :: b.templateModes.drop 1 }.into mode

def contentMode (name : String) : Mode :=
  if name ∈ ["caption", "colgroup"] ++ Vocabulary.rowGroups then .inTable
  else if name == "col" then .inColumnGroup
  else if name == "tr" then .inTableBody
  else if name ∈ Vocabulary.cells then .inRow
  else .inBody

def readInTemplate (b : Builder) (t : Token) : Outcome :=
  match t with
  | .blank _ | .text _ | .comment _ => b.readInBody t
  | .opening tag =>
    if tag.name ∈ Vocabulary.metadata then .done (b.insertMetadata tag)
    else .again (b.turnTemplate (contentMode tag.name)) t
  | .closing name => .done (if name == "template" then b.closeTemplate else b)
  | .eof => b.endTemplates
  | .doctype _ | .null | .fault => .done b

end HeadAudit.Markup.Builder

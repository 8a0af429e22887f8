import HeadAudit.Markup.Mode.Body

namespace HeadAudit.Markup.Builder

/-- Read a token that belongs in no table: it is read as in the body and goes in front of the table.
-/
def foster (b : Builder) (t : Token) : Outcome :=
  match { b with fostering := true }.readInBody t with
  | .done b => .done { b with fostering := false }
  | .again b t => .again { b with fostering := false } t

def closeTo (names : List String) (b : Builder) : Builder := b.popWhile (!·.isIn names)

def tableContext : List String := ["html", "table", "template"]

def rowGroupContext : List String := ["html", "template"] ++ Vocabulary.rowGroups

def rowContext : List String := ["html", "template", "tr"]

def tableFrames : List String := ["table", "tr"] ++ Vocabulary.rowGroups

def insertTableForm (tag : Tag) (b : Builder) : Builder :=
  if b.holds "template" || b.form.isSome then b
  else
    let b := b.insert tag
    ({ b with form := b.current?.map (·.id) } : Builder).pop

def closeTable? (b : Builder) : Option Builder :=
  if b.inTableScope ["table"] then some (b.popThrough ["table"]).resetMode else none

def openInTable (tag : Tag) (b : Builder) : Outcome :=
  let name := tag.name
  let inContext := b.closeTo tableContext
  if name == "caption" then .done ((inContext.addMarker.insert tag).into .inCaption)
  else if name == "colgroup" then .done ((inContext.insert tag).into .inColumnGroup)
  else if name == "col" then
    .again ((inContext.insertImplied "colgroup").into .inColumnGroup) (.opening tag)
  else if name ∈ Vocabulary.rowGroups then .done ((inContext.insert tag).into .inTableBody)
  else if name ∈ "tr" :: Vocabulary.cells then
    .again ((inContext.insertImplied "tbody").into .inTableBody) (.opening tag)
  else if name == "table" then b.closeTable?.elim (.done b) (.again · (.opening tag))
  else if name ∈ ["script", "style", "template"] then .done (b.insertMetadata tag)
  else if name == "input" && isHidden tag then .done (b.insertEmpty tag)
  else if name == "form" then .done (b.insertTableForm tag)
  else b.foster (.opening tag)

def readInTable (b : Builder) (t : Token) : Outcome :=
  match t with
  | .blank _ | .text _ | .null =>
    if b.isAt tableFrames then
      .again ({ b with tableText := [], resume := b.mode }.into .inTableText) t
    else b.foster t
  | .comment s => .done (b.addComment s)
  | .opening tag => b.openInTable tag
  | .closing name =>
    if name == "table" then .done (b.closeTable?.getD b)
    else if name == "template" then .done b.closeTemplate
    else if name ∈ "body" :: "html" :: Vocabulary.tableParts then .done b
    else b.foster t
  | .eof => b.readInBody t
  | .doctype _ | .fault => .done b

/-- Text that is not blank belongs in no table, and takes the white space around it along. -/
def flushTableText (b : Builder) : Builder :=
  let texts := b.tableText.reverse
  let b := { b with tableText := [] }.into b.resume
  let isVisible := texts.any fun | .text _ => true | _ => false
  texts.foldl (fun b t =>
    match t with
    | .blank s | .text s => if isVisible then (b.foster t).builder else b.addText s
    | _ => b) b

def readInTableText (b : Builder) (t : Token) : Outcome :=
  match t with
  | .blank _ | .text _ => .done { b with tableText := t :: b.tableText }
  | .null => .done b
  | _ => .again b.flushTableText t

def readInCaption (b : Builder) (t : Token) : Outcome :=
  let closed? :=
    if b.inTableScope ["caption"] then
      some ((b.closeImplied.popThrough ["caption"]).clearMarks.into .inTable)
    else none
  match t with
  | .opening tag =>
    if tag.name ∈ Vocabulary.tableParts then closed?.elim (.done b) (.again · t)
    else b.readInBody t
  | .closing name =>
    if name == "caption" then .done (closed?.getD b)
    else if name == "table" then closed?.elim (.done b) (.again · t)
    else if name ∈ "body" :: "html" :: Vocabulary.tableParts then .done b
    else b.readInBody t
  | _ => b.readInBody t

def readInColumnGroup (b : Builder) (t : Token) : Outcome :=
  let closed? := if b.isAt ["colgroup"] then some (b.pop.into .inTable) else none
  let leave := closed?.elim (Outcome.done b) (.again · t)
  match t with
  | .blank s => .done (b.addText s)
  | .comment s => .done (b.addComment s)
  | .opening tag =>
    if tag.name == "html" then .done (b.addRootAttributes tag)
    else if tag.name == "col" then .done (b.insertEmpty tag)
    else if tag.name == "template" then .done (b.insertMetadata tag)
    else leave
  | .closing name =>
    if name == "colgroup" then .done (closed?.getD b)
    else if name == "col" then .done b
    else if name == "template" then .done b.closeTemplate
    else leave
  | .eof => b.readInBody t
  | _ => leave

def leavesRows (t : Token) : Bool :=
  match t with
  | .opening tag => tag.name ∈ ["caption", "col", "colgroup"] ++ Vocabulary.rowGroups
  | .closing name => name == "table"
  | _ => false

def readInTableBody (b : Builder) (t : Token) : Outcome :=
  let inContext := b.closeTo rowGroupContext
  let ignored := ["body", "caption", "col", "colgroup", "html", "td", "th", "tr"]
  if leavesRows t then
    if b.inTableScope Vocabulary.rowGroups then .again (inContext.pop.into .inTable) t else .done b
  else
    match t with
    | .opening tag =>
      if tag.name == "tr" then .done ((inContext.insert tag).into .inRow)
      else if tag.name ∈ Vocabulary.cells then .again ((inContext.insertImplied "tr").into .inRow) t
      else b.readInTable t
    | .closing name =>
      if name ∈ Vocabulary.rowGroups then
        .done (if b.inTableScope [name] then inContext.pop.into .inTable else b)
      else if name ∈ ignored then .done b
      else b.readInTable t
    | _ => b.readInTable t

def readInRow (b : Builder) (t : Token) : Outcome :=
  let inContext := b.closeTo rowContext
  let closed? := if b.inTableScope ["tr"] then some (inContext.pop.into .inTableBody) else none
  let ignored := ["body", "caption", "col", "colgroup", "html", "td", "th"]
  if leavesRows t then closed?.elim (.done b) (.again · t)
  else
    match t with
    | .opening tag =>
      if tag.name ∈ Vocabulary.cells then
        .done ((inContext.insert tag).addMarker.into .inCell)
      else if tag.name == "tr" then closed?.elim (.done b) (.again · t)
      else b.readInTable t
    | .closing name =>
      if name == "tr" then .done (closed?.getD b)
      else if name ∈ Vocabulary.rowGroups then
        if b.inTableScope [name] then closed?.elim (.done b) (.again · t) else .done b
      else if name ∈ ignored then .done b
      else b.readInTable t
    | _ => b.readInTable t

def closeCell (names : List String) (b : Builder) : Builder :=
  ((b.closeImplied.popThrough names).clearMarks).into .inRow

def readInCell (b : Builder) (t : Token) : Outcome :=
  let ignored := ["body", "caption", "col", "colgroup", "html"]
  match t with
  | .opening tag =>
    if tag.name ∈ Vocabulary.tableParts then
      if b.inTableScope Vocabulary.cells then .again (b.closeCell Vocabulary.cells) t else .done b
    else b.readInBody t
  | .closing name =>
    if name ∈ Vocabulary.cells then
      .done (if b.inTableScope [name] then b.closeCell [name] else b)
    else if name ∈ ignored then .done b
    else if name ∈ tableFrames then
      if b.inTableScope [name] then .again (b.closeCell Vocabulary.cells) t else .done b
    else b.readInBody t
  | _ => b.readInBody t

end HeadAudit.Markup.Builder

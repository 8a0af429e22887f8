import HeadAudit.Markup.Mode.Body

namespace HeadAudit.Markup.Builder

def addRootComment (s : String) (b : Builder) : Builder :=
  let root := (b.opened.getLast?.map (·.id)).getD 0
  { b with draft := b.draft.insertComment (.under root) s }

def readAfterBody (b : Builder) (t : Token) : Outcome :=
  let goBack := Outcome.again (b.into .inBody) t
  match t with
  | .blank _ => b.readInBody t
  | .comment s => .done (b.addRootComment s)
  | .opening tag => if tag.name == "html" then .done (b.addRootAttributes tag) else goBack
  | .closing name => if name == "html" then .done (b.into .afterAfterBody) else goBack
  | .eof | .doctype _ => .done b
  | _ => goBack

def readAfterAfterBody (b : Builder) (t : Token) : Outcome :=
  let goBack := Outcome.again (b.into .inBody) t
  match t with
  | .blank _ => b.readInBody t
  | .comment s => .done (b.addTopComment s)
  | .opening tag => if tag.name == "html" then .done (b.addRootAttributes tag) else goBack
  | .eof | .doctype _ => .done b
  | _ => goBack

def openNearFrameset (tag : Tag) (b : Builder) : Builder :=
  if tag.name == "html" then b.addRootAttributes tag
  else if tag.name == "noframes" then b.insertMetadata tag
  else b

def closeFrameset (b : Builder) : Builder :=
  if b.opened.length ≤ 1 then b
  else
    let b := b.pop
    if b.isAt ["frameset"] then b else b.into .afterFrameset

def readInFrameset (b : Builder) (t : Token) : Outcome :=
  .done <|
    match t with
    | .blank s => b.addText s
    | .comment s => b.addComment s
    | .opening tag =>
      if tag.name == "frameset" then b.insert tag
      else if tag.name == "frame" then b.insertEmpty tag
      else b.openNearFrameset tag
    | .closing name => if name == "frameset" then b.closeFrameset else b
    | _ => b

def readAfterFrameset (b : Builder) (t : Token) : Outcome :=
  .done <|
    match t with
    | .blank s => b.addText s
    | .comment s => b.addComment s
    | .opening tag => b.openNearFrameset tag
    | .closing name => if name == "html" then b.into .afterAfterFrameset else b
    | _ => b

def readAfterAfterFrameset (b : Builder) (t : Token) : Outcome :=
  match t with
  | .blank _ => b.readInBody t
  | .comment s => .done (b.addTopComment s)
  | .opening tag => .done (b.openNearFrameset tag)
  | _ => .done b

end HeadAudit.Markup.Builder

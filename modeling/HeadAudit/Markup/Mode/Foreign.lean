import HeadAudit.Markup.Mode.Frameset
import HeadAudit.Markup.Mode.Select
import HeadAudit.Markup.Mode.Table
import HeadAudit.Markup.Mode.Template

namespace HeadAudit.Markup.Builder

def readByMode (b : Builder) (t : Token) : Outcome :=
  match b.mode with
  | .initial => b.readInitial t
  | .beforeHtml => b.readBeforeHtml t
  | .beforeHead => b.readBeforeHead t
  | .inHead => b.readInHead t
  | .afterHead => b.readAfterHead t
  | .inBody => b.readInBody t
  | .inText => b.readInText t
  | .inTable => b.readInTable t
  | .inTableText => b.readInTableText t
  | .inCaption => b.readInCaption t
  | .inColumnGroup => b.readInColumnGroup t
  | .inTableBody => b.readInTableBody t
  | .inRow => b.readInRow t
  | .inCell => b.readInCell t
  | .inSelect => b.readInSelect t
  | .inSelectInTable => b.readInSelectInTable t
  | .inTemplate => b.readInTemplate t
  | .afterBody => b.readAfterBody t
  | .inFrameset => b.readInFrameset t
  | .afterFrameset => b.readAfterFrameset t
  | .afterAfterBody => b.readAfterAfterBody t
  | .afterAfterFrameset => b.readAfterAfterFrameset t

/-- The element takes the token as HTML although it is foreign itself. -/
def takesHtml (o : Opened) (t : Token) : Bool :=
  match t with
  | .blank _ | .text _ | .null => o.holdsText || o.holdsHtml || o.annotatesHtml
  | .opening tag =>
    (o.holdsText && tag.name != "mglyph" && tag.name != "malignmark") || o.holdsHtml ||
      o.annotatesHtml ||
      (o.space == .mathml && o.name == "annotation-xml" && tag.name == "svg")
  | _ => false

def isForeign (b : Builder) : Bool := b.current?.any (·.space != .html)

def readsForeign (b : Builder) (t : Token) : Bool :=
  match t with
  | .eof => false
  | _ => b.current?.any fun o => o.space != .html && !takesHtml o t

def breakOut (b : Builder) (t : Token) : Outcome :=
  (b.popWhile fun o => o.space != .html && !o.holdsText && !o.holdsHtml).readByMode t

def openForeign (tag : Tag) (b : Builder) : Builder :=
  let space := b.current?.elim .html (·.space)
  let tag := Foreign.namedIn space tag
  if tag.selfClosing then (b.place space tag).1 else b.openIn space tag

/-- The open elements outside of the innermost one with the name, if no HTML element stands inside
it; the root element is never closed. -/
def outside? (name : String) : List Opened → Option (List Opened)
  | [] | [_] => none
  | o :: os =>
    if Ascii.same o.name name then some os
    else if (os.head?).any (·.space == .html) then none
    else outside? name os

def closeForeign (name : String) (b : Builder) : Outcome :=
  match outside? name b.opened with
  | some opened => .done { b with opened }
  | none => b.readByMode (.closing name)

def readForeign (b : Builder) (t : Token) : Outcome :=
  match t with
  | .blank s => .done (b.addText s)
  | .text s => .done (b.forbidFrameset.addText s)
  | .null => .done (b.addText "\ufffd")
  | .comment s => .done (b.addComment s)
  | .opening tag => if Foreign.breaksOut tag then b.breakOut t else .done (b.openForeign tag)
  | .closing name => if name ∈ ["br", "p"] then b.breakOut t else b.closeForeign name
  | .eof | .doctype _ | .fault => .done b

end HeadAudit.Markup.Builder

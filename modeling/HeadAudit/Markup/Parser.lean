import HeadAudit.Markup.Lexer
import HeadAudit.Markup.Mode.Foreign

namespace HeadAudit.Markup

namespace Builder

/-- Read a token until it is done with. A token is read again only after a change of mode that leads
on or after an element was closed, which bounds `fuel`. -/
def settle : Nat → Builder → Token → Builder
  | 0, b, _ => b
  | fuel + 1, b, t =>
    match if b.readsForeign t then b.readForeign t else b.readByMode t with
    | .done b => b
    | .again b t => settle fuel b t

def fuel (b : Builder) : Nat := 4 * (b.opened.length + 8)

/-- A line break at the start of preformatted text does not count, unless there is a fault in
front of it. -/
def withoutBreak : Token → Option Token
  | .blank s =>
    match s.toList with
    | ['\n'] => none
    | '\n' :: cs => some (.blank (String.ofList cs))
    | _ => some (.blank s)
  | t => some t

def read (b : Builder) (t : Token) : Builder :=
  let skip := b.skipBreak
  let b := { b with skipBreak := false }
  match t with
  | .doctype d => b.readDoctype d
  | .fault => b
  | _ => (if skip then withoutBreak t else some t).elim b fun t => b.settle b.fuel t

/-- Read a text to its end. Each round takes a character, so `fuel` need not exceed their number. -/
def readAll : Nat → Builder → List Char → Builder
  | 0, b, _ => b
  | fuel + 1, b, cs =>
    if cs.isEmpty then b
    else
      let (tokens, rest) := Lexer.next b.textMode b.isForeign cs
      readAll fuel (tokens.foldl read { b with textMode := .markup }) rest

end Builder

namespace Document

/-- Read markup. Any text is a document: what is missing is added, and what is out of place moves or
is dropped. Scripts count as running, so `noscript` holds text. -/
def parse (source : String) : Document :=
  let cs := Lexer.normalize (Lexer.withoutMark source.toList)
  ((Builder.start.readAll cs.length cs).read .eof).draft.document

end Document

end HeadAudit.Markup

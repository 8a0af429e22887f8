import HeadAudit.Markup.Reference
import HeadAudit.Markup.StartTag
import HeadAudit.Markup.Token

namespace HeadAudit.Markup.Lexer

def withoutMark : List Char → List Char
  | '\ufeff' :: cs => cs
  | cs => cs

def normalize : List Char → List Char
  | [] => []
  | '\r' :: '\n' :: cs => '\n' :: normalize cs
  | '\r' :: cs => '\n' :: normalize cs
  | c :: cs => c :: normalize cs

def visible (c : Char) : Char := if c == '\x00' then '\ufffd' else c

def visibleText (cs : List Char) : String := String.ofList (cs.map visible)

def nameOf (cs : List Char) : String := String.ofList (cs.map fun c => visible c.toLower)

def runs (cs : List Char) : List Token :=
  (cs.splitBy fun a b => Ascii.isBlank a == Ascii.isBlank b && a != '\x00' && b != '\x00').map
    fun run =>
      match run with
      | ['\x00'] => .null
      | _ => if run.all Ascii.isBlank then .blank (String.ofList run) else .text (String.ofList run)

/-- The tokens of text with character references. A fault counts only at the front. -/
def referring (cs : List Char) : List Token :=
  (if Reference.startsFaulty cs then [.fault] else []) ++ runs (Reference.decode .text cs)

def endsName (c : Char) : Bool := Ascii.isBlank c || c == '/' || c == '>'

def startsWithName (keyword : String) (cs : List Char) : Bool :=
  Ascii.startsWith keyword.toList cs && (cs[keyword.length]?).any endsName

def splitBefore (p : List Char → Bool) : List Char → List Char × List Char
  | [] => ([], [])
  | c :: cs =>
    if p (c :: cs) then ([], c :: cs)
    else
      let (content, rest) := splitBefore p cs
      (c :: content, rest)

def splitAround (pattern : String) (cs : List Char) : List Char × List Char :=
  let (content, rest) := splitBefore pattern.toList.isPrefixOf cs
  (content, rest.drop pattern.length)

section Attributes

def value? (cs : List Char) : Option (List Char × List Char) :=
  match cs.dropWhile Ascii.isBlank with
  | '"' :: cs => quoted '"' cs
  | '\'' :: cs => quoted '\'' cs
  | cs => some (cs.span fun c => !Ascii.isBlank c && c != '>')
where
  quoted (quote : Char) (cs : List Char) : Option (List Char × List Char) :=
    match cs.span (· != quote) with
    | (value, _ :: rest) => some (value, rest)
    | (_, []) => none

def attribute? : List Char → Option ((String × String) × List Char)
  | [] => none
  | c :: cs =>
    let (name, rest) := cs.span fun c => !endsName c && c != '='
    match rest.dropWhile Ascii.isBlank with
    | '=' :: rest =>
      (value? rest).map fun (value, rest) =>
        ((nameOf (c :: name), visibleText (Reference.decode .value value)), rest)
    | rest => some ((nameOf (c :: name), ""), rest)

/-- The rest of a start tag: its attributes, whether a slash stands before its `>`, and the text
behind it. There is none if the text ends first. Each round takes a character, so `fuel` need not
exceed their number. -/
def attributes? : Nat → List Char → Option (List (String × String) × Bool × List Char)
  | 0, _ => none
  | fuel + 1, cs =>
    match cs.dropWhile Ascii.isBlank with
    | [] => none
    | '>' :: rest => some ([], false, rest)
    | '/' :: '>' :: rest => some ([], true, rest)
    | '/' :: rest => attributes? fuel rest
    | cs => do
      let (attr, rest) ← attribute? cs
      let (attrs, selfClosing, rest) ← attributes? fuel rest
      return (attr :: attrs, selfClosing, rest)

def distinct : List (String × String) → List (String × String)
  | [] => []
  | attr :: attrs => attr :: (distinct attrs).filter (·.1 != attr.1)

def tag? (cs : List Char) : Option (Tag × List Char) :=
  let (name, rest) := cs.span fun c => !endsName c
  (attributes? (rest.length + 1) rest).map fun (attrs, selfClosing, rest) =>
    ({ name := nameOf name, attrs := distinct attrs, selfClosing }, rest)

def opening (cs : List Char) : List Token × List Char :=
  match tag? cs with
  | some (tag, rest) => ([.opening tag], rest)
  | none => ([], [])

def closing (cs : List Char) : List Token × List Char :=
  match tag? cs with
  | some (tag, rest) => ([.closing tag.name], rest)
  | none => ([], [])

end Attributes

section Declarations

/-- The text of a comment that the document ends in: the start of a closing is no part of it. -/
def unclosed (cs : List Char) : List Char :=
  match cs.reverse with
  | '!' :: '-' :: '-' :: rest | '-' :: '-' :: rest | '-' :: rest => rest.reverse
  | _ => cs

def comment (cs : List Char) : List Token × List Char :=
  match cs with
  | '>' :: rest | '-' :: '>' :: rest => ([.comment ""], rest)
  | _ =>
    match splitBefore (fun cs => "-->".toList.isPrefixOf cs || "--!>".toList.isPrefixOf cs) cs with
    | (content, []) => ([.comment (visibleText (unclosed content))], [])
    | (content, rest) => ([.comment (visibleText content)], (rest.dropWhile (· != '>')).drop 1)

def strayComment (cs : List Char) : List Token × List Char :=
  let (content, rest) := splitAround ">" cs
  ([.comment (visibleText content)], rest)

/-- A quoted identifier and the text behind it. If the quote is not closed, the rest of the text
belongs to it and nothing is left. -/
def identifier? (cs : List Char) : Option (String × Option (List Char)) :=
  match cs with
  | '"' :: cs => some (read '"' cs)
  | '\'' :: cs => some (read '\'' cs)
  | _ => none
where
  read (quote : Char) (cs : List Char) : String × Option (List Char) :=
    match cs.span (· != quote) with
    | (content, _ :: rest) => (visibleText content, some rest)
    | (content, []) => (visibleText content, none)

def identifiers (cs : List Char) : Option String × Option String × Bool :=
  if cs.isEmpty then (none, none, true)
  else if Ascii.startsWith "public".toList cs then
    match identifier? ((cs.drop 6).dropWhile Ascii.isBlank) with
    | none => (none, none, false)
    | some (publicId, none) => (some publicId, none, false)
    | some (publicId, some rest) =>
      match rest.dropWhile Ascii.isBlank with
      | [] => (some publicId, none, true)
      | rest =>
        match identifier? rest with
        | none => (some publicId, none, false)
        | some (systemId, rest) => (some publicId, some systemId, rest.isSome)
  else if Ascii.startsWith "system".toList cs then
    match identifier? ((cs.drop 6).dropWhile Ascii.isBlank) with
    | none => (none, none, false)
    | some (systemId, rest) => (none, some systemId, rest.isSome)
  else (none, none, false)

def doctype (cs : List Char) : List Token × List Char :=
  let (content, rest) := cs.span (· != '>')
  let (name, behind) := (content.dropWhile Ascii.isBlank).span (!Ascii.isBlank ·)
  let (publicId, systemId, wellWritten) := identifiers (behind.dropWhile Ascii.isBlank)
  ([.doctype
      { name := nameOf name, publicId, systemId
        isBroken := name.isEmpty || rest.isEmpty || !wellWritten }],
    rest.drop 1)

def declaration (verbatim : Bool) (cs : List Char) : List Token × List Char :=
  if "--".toList.isPrefixOf cs then comment (cs.drop 2)
  else if Ascii.startsWith "doctype".toList cs then doctype (cs.drop 7)
  else if verbatim && "[CDATA[".toList.isPrefixOf cs then
    let (content, rest) := splitAround "]]>" (cs.drop 7)
    (runs content, rest)
  else strayComment cs

end Declarations

def markup (verbatim : Bool) : List Char → List Token × List Char
  | [] => ([], [])
  | '<' :: cs =>
    match cs with
    | '!' :: rest => declaration verbatim rest
    | '?' :: _ => strayComment cs
    | '/' :: rest =>
      match rest with
      | [] => ([.text "</"], [])
      | '>' :: rest => ([.fault], rest)
      | c :: _ => if StartTag.isLetter c then closing rest else strayComment rest
    | c :: _ => if StartTag.isLetter c then opening cs else ([.text "<"], cs)
    | [] => ([.text "<"], [])
  | cs =>
    let (content, rest) := cs.span (· != '<')
    (referring content, rest)

section Script

/-- Inside a script, a comment hides the end tag of a script that starts in it. The dashes are those
just before. -/
inductive Nesting where
  | none
  | comment (dashes : Nat)
  | script (dashes : Nat)

namespace Nesting

def after (c : Char) : Nesting → Nesting
  | none => none
  | comment dashes =>
    if c == '-' then comment (dashes + 1)
    else if c == '>' && 2 ≤ dashes then none
    else comment 0
  | script dashes =>
    if c == '-' then script (dashes + 1)
    else if c == '>' && 2 ≤ dashes then none
    else script 0

/-- What starts at the front of the text: how many characters it has, and the nesting behind it.
None is the end tag of the script. -/
def step? (nesting : Nesting) (cs : List Char) : Option (Nat × Nesting) :=
  match nesting with
  | none =>
    if startsWithName "</script" cs then Option.none
    else if "<!--".toList.isPrefixOf cs then some (4, comment 2)
    else some (1, none)
  | comment _ =>
    if startsWithName "</script" cs then Option.none
    else if startsWithName "<script" cs then some (8, script 0)
    else some (1, nesting.after (cs.headD ' '))
  | script _ =>
    if startsWithName "</script" cs then some (9, comment 0)
    else some (1, nesting.after (cs.headD ' '))

end Nesting

def scriptLength : Nat → Nesting → List Char → Nat
  | 0, _, _ => 0
  | _, _, [] => 0
  | fuel + 1, nesting, cs =>
    match nesting.step? cs with
    | none => 0
    | some (n, nesting) => n + scriptLength fuel nesting (cs.drop n)

end Script

def enclosed (content : List Token) (rest : List Char) : List Token × List Char :=
  let (tokens, rest) := if rest.isEmpty then ([], []) else closing (rest.drop 2)
  (content ++ tokens, rest)

/-- Take tokens off a text. Some characters go unless there are none. Behind a script the text
starts anew, so that a byte order mark does not count there. -/
def next (mode : TextMode) (verbatim : Bool) (cs : List Char) : List Token × List Char :=
  match mode with
  | .markup => markup verbatim cs
  | .escapable name =>
    let (content, rest) := splitBefore (startsWithName ("</" ++ name)) cs
    enclosed (referring (content.map visible)) rest
  | .raw name =>
    let (content, rest) := splitBefore (startsWithName ("</" ++ name)) cs
    enclosed (runs (content.map visible)) rest
  | .script =>
    let (content, rest) := cs.splitAt (scriptLength cs.length .none cs)
    let (tokens, rest) := enclosed (runs (content.map visible)) rest
    (tokens, withoutMark rest)
  | .plain => (runs (cs.map visible), [])

end HeadAudit.Markup.Lexer

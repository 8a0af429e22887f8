import HeadAudit.Text.Ascii

namespace HeadAudit.Markup

/-- A start tag: its name in lower case, and the byte offsets of its `<` and its `>`. -/
structure StartTag where
  name : String
  start : Nat
  stop : Nat
  deriving DecidableEq

namespace StartTag

def rawTags : List String :=
  ["script", "style", "title", "textarea", "xmp", "iframe", "noembed", "noframes", "noscript"]

def isLetter (c : Char) : Bool := ('a' ≤ c && c ≤ 'z') || ('A' ≤ c && c ≤ 'Z')

def isNameChar (c : Char) : Bool := isLetter c || c.isDigit || c == '-'

def suffix? (p : List Char → Bool) : List Char → Option (List Char)
  | [] => if p [] then some [] else none
  | c :: cs => if p (c :: cs) then some (c :: cs) else suffix? p cs

def behind (pattern cs : List Char) : List Char :=
  ((suffix? pattern.isPrefixOf cs).map (·.drop pattern.length)).getD []

/-- The text from the first `>` on that stands outside of quotes; `quote` is the open one. -/
def closing? : Option Char → List Char → Option (List Char)
  | _, [] => none
  | some quote, c :: cs => closing? (if c == quote then none else some quote) cs
  | none, c :: cs =>
    if c == '>' then some (c :: cs)
    else closing? (if c == '"' || c == '\'' then some c else none) cs

def isEndOf (name : List Char) (cs : List Char) : Bool :=
  Ascii.startsWith ('<' :: '/' :: name) cs

/-- What follows a start tag: for an element of raw text, its end tag or nothing. -/
def afterContent (name : String) (cs : List Char) : List Char :=
  if name ∈ rawTags then (suffix? (isEndOf name.toList) cs).getD [] else cs

structure Found where
  name : String
  opening : List Char
  closing : List Char

/-- The start tags in a text. A tag that is not closed ends the search. Each round takes a
character, so `fuel` need not exceed their number. -/
def search : Nat → List Char → List Found
  | 0, _ => []
  | fuel + 1, cs =>
    match cs with
    | [] => []
    | '<' :: rest =>
      if "!--".toList.isPrefixOf rest then search fuel (behind "-->".toList (rest.drop 3))
      else
        match rest with
        | [] => []
        | c :: _ =>
          if c == '!' || c == '?' || c == '/' then search fuel (behind ['>'] rest)
          else if isLetter c then
            let name := String.ofList ((rest.takeWhile isNameChar).map Char.toLower)
            match closing? none (rest.dropWhile isNameChar) with
            | none => []
            | some closing =>
              ⟨name, cs, closing⟩ :: search fuel (afterContent name (closing.drop 1))
          else search fuel rest
    | _ :: rest => search fuel (rest.dropWhile (· != '<'))

def width : List Char → Nat
  | [] => 0
  | c :: cs => c.utf8Size + width cs

def scan (source : String) : List StartTag :=
  let cs := source.toList
  (search cs.length cs).map fun found =>
    { name := found.name
      start := width cs - width found.opening
      stop := width cs - width found.closing }

end StartTag

end HeadAudit.Markup

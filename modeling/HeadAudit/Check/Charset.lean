import HeadAudit.Check.Finding

namespace HeadAudit.Check.Charset

variable {ν : Type}

def prescan : Nat := 1024

def isDeclaration (a : Adapter ν) (node : ν) : Bool :=
  a.selectsAny node ["meta[charset]", "meta[http-equiv=content-type i]"]

def isQuote (c : Char) : Bool := c == '"' || c == '\''

def ofContentType? (content : String) : Option String := do
  let behind ← Text.after? "charset=".toList (Ascii.lower content).toList
  let value := content.toList.drop (content.length - behind.length)
  let value := Text.strip Text.isBlank (value.takeWhile (· != ';'))
  return String.ofList (Text.strip isQuote value)

def declared? (a : Adapter ν) (node : ν) : Option String :=
  match a.attr node "charset" with
  | some charset => some (Text.trim charset)
  | none => (a.attr node "content").bind ofContentType?

def duplicateWarning : String :=
  "There can only be one meta-based character encoding declaration per document. Use either " ++
    "`<meta charset>` or `<meta http-equiv>`, but not both."

def lateWarning (offset : Nat) : String :=
  "The element containing the character encoding declaration must be serialized completely " ++
    s!"within the first {prescan} bytes of the document. Found at byte {offset}."

def encodingWarning (charset : Option String) : String :=
  let found := charset.getD ""
  s!"Documents are required to use UTF-8 encoding. Found \"{found}\"."

variable [DecidableEq ν]

def warnings (a : Adapter ν) (node : ν) : List String :=
  let offset := a.endOffset? node
  let charset := declared? a node
  (if (a.siblings node).any (isDeclaration a) then [duplicateWarning] else []) ++
    (match offset with
      | some offset => if prescan < offset then [lateWarning offset] else []
      | none => []) ++
    (if charset.any (Ascii.same "utf-8") then [] else [encodingWarning charset])

/-- Data is recorded only where there is something to warn of. -/
def check (a : Adapter ν) (node : ν) : Finding :=
  let warnings := warnings a node
  if warnings.isEmpty then {}
  else { warnings, payload := some (.charset (declared? a node) (a.endOffset? node)) }

end HeadAudit.Check.Charset

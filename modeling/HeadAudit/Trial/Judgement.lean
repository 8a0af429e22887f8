import HeadAudit.Context
import HeadAudit.Trial.Token

namespace HeadAudit.Trial

inductive Problem where
  | expired
  | subdomain
  | thirdParty
  deriving DecidableEq

def Problem.message : Problem → String
  | .expired => "expired"
  | .subdomain => "invalid subdomain"
  | .thirdParty => "invalid third-party origin"

def Payload.originUrl? (p : Payload) : Option Url := (Url.parse p.origin).toOption

def Payload.isExpired (p : Payload) (now : Int) : Bool := p.expiry < now

def isBelow (host parent : List Char) : Bool :=
  parent.isSuffixOf host &&
    let front := host.take (host.length - parent.length)
    1 < front.length && front.getLast? == some '.'

def isSubdomainOf (document token : Url) : Bool :=
  match document.hostText?, token.hostText? with
  | some document, some token => isBelow document.toList token.toList
  | _, _ => false

/-- Two URLs share an origin. A URL without one shares it with none. -/
def sameOrigin (a b : Url) : Bool :=
  match a.origin?, b.origin? with
  | some a, some b => a == b
  | _, _ => false

def originProblem (p : Payload) (document token : Url) : Option Problem :=
  if sameOrigin document token then none
  else if isSubdomainOf document token then
    if p.isSubdomain then none else some .subdomain
  else if p.isThirdParty then none
  else some .thirdParty

/-- Expiry first, then the origin if the URL of the document is known. -/
def problems (p : Payload) (ctx : Context) : List Problem :=
  (if p.isExpired ctx.now then [.expired] else []) ++
    match ctx.document, p.originUrl? with
    | some document, some token => (originProblem p document token).toList
    | _, _ => []

end HeadAudit.Trial

import HeadAudit.Check.Charset
import HeadAudit.Check.ContentPolicy
import HeadAudit.Check.DefaultStyle
import HeadAudit.Check.Pragma
import HeadAudit.Check.Preload
import HeadAudit.Check.TrialToken
import HeadAudit.Check.Viewport
import HeadAudit.Rule

namespace HeadAudit.Check.Element

variable {ν : Type} [DecidableEq ν]

def check (a : Adapter ν) (ctx : Context) (node : ν) : Finding :=
  if Rule.isOriginTrial a node then TrialToken.check a ctx node
  else if Rule.isContentPolicy a node then ContentPolicy.check a node
  else if DefaultStyle.isDefaultStyle a node then DefaultStyle.check a node
  else if Charset.isDeclaration a node then Charset.check a node
  else if a.selects node "meta[http-equiv]" then Pragma.check a node
  else if Viewport.isViewport a node then Viewport.check a node
  else if Preload.isUnnecessary a ctx node then Preload.check a ctx node
  else {}

end HeadAudit.Check.Element

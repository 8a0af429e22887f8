import HeadAudit.Check.Finding
import HeadAudit.Context

namespace HeadAudit.Check.Preload

variable {ν : Type}

def isPreload (a : Adapter ν) (node : ν) : Bool :=
  a.selectsAny node ["link[rel=preload i][href]", "link[rel=modulepreload i][href]"]

def reference? (a : Adapter ν) (node : ν) : Option String :=
  if a.selects node "script[src]" then a.attr node "src"
  else if a.selects node "link[href]" && !isPreload a node then a.attr node "href"
  else none

/-- A reference resolved against the base; what cannot be resolved stays as it is written. -/
def absolute (base : Option Url) (reference : String) : String :=
  let reference := Text.trim reference
  let url := match base with
    | some base => base.join reference
    | none => Url.parse reference
  match url with
  | .ok url => url.text
  | .error _ => reference

structure Discovery (ν : Type) where
  href : String
  url : String
  discoverer : ν

variable [DecidableEq ν]

def discovery? (a : Adapter ν) (ctx : Context) (node : ν) : Option (Discovery ν) :=
  if isPreload a node then
    (a.attr node "href").bind fun href =>
      let base := (a.parent node).bind fun parent => ctx.effectiveBase a parent
      let url := absolute base href
      let refers (sibling : ν) : Bool := (reference? a sibling).any fun r => absolute base r == url
      ((a.siblings node).find? refers).map (⟨href, url, ·⟩)
  else none

def isUnnecessary (a : Adapter ν) (ctx : Context) (node : ν) : Bool :=
  (discovery? a ctx node).isSome

def check (a : Adapter ν) (ctx : Context) (node : ν) : Finding :=
  match discovery? a ctx node with
  | some d =>
    let tag := a.tagName d.discoverer
    { warnings :=
        [s!"This preload has little to no effect. {d.href} is already discoverable by another " ++
          s!"{tag} element."]
      payload := some (.unnecessaryPreload d.href d.url (a.startTag d.discoverer)) }
  | none => {}

end HeadAudit.Check.Preload

import HeadAudit.Text.Blank
import HeadAudit.Adapter.Selector
import HeadAudit.Category

namespace HeadAudit.Rule

variable {ν : Type}

/-- Values of `http-equiv` that make a meta element as urgent as the character encoding. -/
def urgentPragmas : List String :=
  ["accept-ch", "content-security-policy", "content-type", "default-style", "delegate-ch",
    "origin-trial", "x-dns-prefetch-control"]

def isPragma (a : Adapter ν) (node : ν) : Bool :=
  let tag := a.tagName node
  if tag == "base" then true
  else if tag == "meta" then
    a.hasAttr node "charset" || a.selects node "meta[name=viewport i]" ||
      (a.attr node "http-equiv").any fun value => urgentPragmas.any (Ascii.same value)
  else false

def isTitle (a : Adapter ν) (node : ν) : Bool := a.selects node "title"

def isPreconnect (a : Adapter ν) (node : ν) : Bool := a.selects node "link[rel=preconnect i]"

def isAsyncScript (a : Adapter ν) (node : ν) : Bool := a.selects node "script[src][async]"

def isImportStyles (a : Adapter ν) (node : ν) : Bool :=
  a.selectsAny node ["style", "link[rel=stylesheet i]"] &&
    Text.contains "@import" (a.textContent node)

def scriptType? (a : Adapter ν) (node : ν) : Option String :=
  (a.attr node "type").map fun type => Ascii.lower (Text.trim type)

def isModule (a : Adapter ν) (node : ν) : Bool := scriptType? a node == some "module"

def isDeferredModule (a : Adapter ν) (node : ν) : Bool :=
  isModule a node && !a.hasAttr node "async"

def isSyncScript (a : Adapter ν) (node : ν) : Bool :=
  let external := a.hasAttr node "src"
  a.selects node "script" &&
    !(external && a.hasAttr node "defer" || external && a.hasAttr node "async" ||
      isDeferredModule a node || (scriptType? a node).any (Text.contains "json"))

def isSyncStyles (a : Adapter ν) (node : ν) : Bool :=
  a.selectsAny node ["link[rel=stylesheet i]", "style"]

def isPreload (a : Adapter ν) (node : ν) : Bool :=
  a.selectsAny node ["link[rel=preload i]", "link[rel=modulepreload i]"]

def isDeferScript (a : Adapter ν) (node : ν) : Bool :=
  a.selects node "script" &&
    (a.hasAttr node "src" && a.hasAttr node "defer" || isDeferredModule a node)

def isPrefetchPrerender (a : Adapter ν) (node : ν) : Bool :=
  a.selectsAny node ["link[rel=prefetch i]", "link[rel=dns-prefetch i]", "link[rel=prerender i]"]

def isOriginTrial (a : Adapter ν) (node : ν) : Bool :=
  a.selects node "meta[http-equiv=origin-trial i]"

def isContentPolicy (a : Adapter ν) (node : ν) : Bool :=
  a.selectsAny node
    ["meta[http-equiv=content-security-policy i]",
      "meta[http-equiv=content-security-policy-report-only i]"]

/-- The rules in the order in which they are tried: the first that applies decides, and an element
to which none applies is other. -/
def table (a : Adapter ν) : List (Category × (ν → Bool)) :=
  [(.pragma, isPragma a), (.title, isTitle a), (.preconnect, isPreconnect a),
    (.asyncScript, isAsyncScript a), (.importStyles, isImportStyles a),
    (.syncScript, isSyncScript a), (.syncStyles, isSyncStyles a), (.preload, isPreload a),
    (.deferScript, isDeferScript a), (.prefetchPrerender, isPrefetchPrerender a)]

def firstMatch (rules : List (Category × (ν → Bool))) (node : ν) : Category :=
  ((rules.find? fun rule => rule.2 node).map (·.1)).getD .other

def classify (a : Adapter ν) (node : ν) : Category := firstMatch (table a) node

/-- The categories of all rules that apply, in the order of the table. -/
def applicable (a : Adapter ν) (node : ν) : List Category :=
  ((table a).filter fun rule => rule.2 node).map (·.1)

end HeadAudit.Rule

import HeadAudit.Check.TrialToken
import HeadAudit.Check.Viewport
import HeadAudit.Rule

namespace HeadAudit

structure Warning (ν : Type) where
  message : String
  elements : List ν
  deriving DecidableEq

namespace Check.Head

variable {ν : Type}

def legalTags : List String :=
  ["base", "link", "meta", "noscript", "script", "style", "template", "title"]

def isLegal (a : Adapter ν) (node : ν) : Bool := a.tagName node ∈ legalTags

def titleWarnings (titles : List ν) : List (Warning ν) :=
  if titles.length = 1 then []
  else [⟨s!"Expected exactly 1 title, found {titles.length}", titles⟩]

def viewportWarnings (viewports : List ν) : List (Warning ν) :=
  if viewports.length = 1 then []
  else [⟨s!"Expected exactly 1 viewport meta, found {viewports.length}", viewports⟩]

def baseWarnings (bases : List ν) : List (Warning ν) :=
  if 1 < bases.length then [⟨s!"Expected at most 1 base, found {bases.length}", bases⟩] else []

def policyWarnings (policies : List ν) : List (Warning ν) :=
  if policies.isEmpty then []
  else
    [⟨"CSP meta tags disable the preload scanner due to a bug in Chrome. Use the CSP header " ++
      "instead. Learn more: https://crbug.com/1458493", policies⟩]

def illegal (child : ν) (tag : String) : Warning ν :=
  ⟨s!"<{tag}> elements are not allowed in the <head>", [child]⟩

def sizeBelow (a : Adapter ν) : Nat → ν → Nat
  | 0, _ => 0
  | fuel + 1, node =>
    ((a.children node).map fun child => sizeBelow a fuel child + 1).foldr (· + ·) 0

def push (stack nodes : List ν) : List ν := nodes.foldl (fun stack node => node :: stack) stack

/-- The tags that have no place in a head, of the nodes on a stack and of all below them. The node
on top is taken off, and its children are pushed, the last of them first. Templates are not looked
into. Each node that is taken off uses up fuel. -/
def illegalOn (a : Adapter ν) : Nat → List ν → List String
  | fuel + 1, node :: stack =>
    if a.tagName node == "template" then illegalOn a fuel stack
    else
      (if isLegal a node then [] else [a.tagName node]) ++
        illegalOn a fuel (push stack (a.children node).reverse)
  | _, _ => []

def illegalBelow (a : Adapter ν) (fuel : Nat) (node : ν) : List String :=
  if a.tagName node == "template" then []
  else illegalOn a (sizeBelow a fuel node) (push [] (a.children node).reverse)

def placementWarnings (a : Adapter ν) (child : ν) : List (Warning ν) :=
  (if isLegal a child then [] else [illegal child (a.tagName child)]) ++
    (illegalBelow a (a.height + 1) child).map (illegal child)

def trialWarnings (a : Adapter ν) (ctx : Context) (node : ν) : List (Warning ν) :=
  match Check.TrialToken.complaints ctx (Check.TrialToken.token a node) with
  | [] => []
  | complaints => [⟨"Invalid origin trial token: " ++ ", ".intercalate complaints, [node]⟩]

def check (a : Adapter ν) (ctx : Context) (head : ν) : List (Warning ν) :=
  let children := a.children head
  titleWarnings (children.filter (Rule.isTitle a)) ++
    viewportWarnings (children.filter (Viewport.isViewport a)) ++
    baseWarnings (children.filter fun child => a.selects child "base") ++
    policyWarnings (children.filter (Rule.isContentPolicy a)) ++
    children.flatMap (placementWarnings a) ++
    (children.filter (Rule.isOriginTrial a)).flatMap (trialWarnings a ctx)

end Check.Head

end HeadAudit

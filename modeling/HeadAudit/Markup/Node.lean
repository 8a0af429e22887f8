namespace HeadAudit.Markup

inductive Node where
  | doctype (name : String)
  | text (s : String)
  | comment (s : String)
  | element (tag : String) (attrs : List (String × String)) (children template : List Node)

structure Document where
  nodes : List Node

inductive Step where
  | child (index : Nat)
  | content (index : Nat)
  deriving DecidableEq

/-- The place of a node: the steps to it from the document, the last one first. -/
abbrev Place := List Step

namespace Node

def isElement : Node → Bool
  | .element .. => true
  | _ => false

def children : Node → List Node
  | .element _ _ children _ => children
  | _ => []

def template : Node → List Node
  | .element _ _ _ template => template
  | _ => []

def tag? : Node → Option String
  | .element tag .. => some tag
  | _ => none

def attrs : Node → List (String × String)
  | .element _ attrs _ _ => attrs
  | _ => []

def step? (n : Node) : Step → Option Node
  | .child i => n.children[i]?
  | .content i => n.template[i]?

mutual

def size : Node → Nat
  | .element _ _ children template => sizes children + sizes template + 1
  | _ => 1

def sizes : List Node → Nat
  | [] => 0
  | n :: ns => size n + sizes ns

end

end Node

namespace Document

/-- The node at a place. The document itself stands at the empty place and is no such node. -/
def get? (d : Document) : Place → Option Node
  | [] => none
  | [.child i] => d.nodes[i]?
  | step :: outer => (d.get? outer).bind (·.step? step)

def below (d : Document) (place : Place) : List Node :=
  if place.isEmpty then d.nodes else ((d.get? place).map Node.children).getD []

def childWithTag? (d : Document) (place : Place) (tag : String) : Option Place :=
  ((d.below place).findIdx? (·.tag? == some tag)).map (.child · :: place)

def html? (d : Document) : Option Place := d.childWithTag? [] "html"

def head? (d : Document) : Option Place := d.html?.bind (d.childWithTag? · "head")

mutual

/-- An element and all elements below it with their places, in the order of their start tags: the
content of a template comes before other children. -/
def elementsOf (place : Place) : Node → List (Place × String)
  | .element tag _ children template =>
    (place, tag) ::
      (elementsUnder .content place 0 template ++ elementsUnder .child place 0 children)
  | _ => []

def elementsUnder (step : Nat → Step) (outer : Place) (i : Nat) : List Node → List (Place × String)
  | [] => []
  | n :: ns => elementsOf (step i :: outer) n ++ elementsUnder step outer (i + 1) ns

end

def elements (d : Document) : List (Place × String) := elementsUnder .child [] 0 d.nodes

end Document

end HeadAudit.Markup

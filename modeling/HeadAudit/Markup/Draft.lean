import HeadAudit.Markup.Node

namespace HeadAudit.Markup

namespace Draft

inductive Content where
  | root
  | doctype (name : String)
  | text (s : String)
  | comment (s : String)
  | element (tag : String) (attrs : List (String × String)) (template : Option Nat)

structure Cell where
  content : Content
  parent : Option Nat
  children : List Nat

inductive Spot where
  | under (parent : Nat)
  | before (sibling : Nat)

end Draft

/-- A document while it is being read. Nodes are known by their number; number 0 is the document,
and the content of a template hangs under a node of its own. -/
structure Draft where
  cells : Array Draft.Cell

namespace Draft

def empty : Draft := ⟨#[⟨.root, none, []⟩]⟩

def parent? (d : Draft) (id : Nat) : Option Nat := d.cells[id]?.bind (·.parent)

def children (d : Draft) (id : Nat) : List Nat := (d.cells[id]?.map (·.children)).getD []

def template? (d : Draft) (id : Nat) : Option Nat :=
  match d.cells[id]? with
  | some ⟨.element _ _ template, _, _⟩ => template
  | _ => none

def modify (d : Draft) (id : Nat) (f : Cell → Cell) : Draft := ⟨d.cells.modify id f⟩

def add (d : Draft) (content : Content) : Draft × Nat :=
  (⟨d.cells.push ⟨content, none, []⟩⟩, d.cells.size)

def addElement (d : Draft) (tag : String) (attrs : List (String × String)) : Draft × Nat :=
  d.add (.element tag attrs none)

def addTemplate (d : Draft) (attrs : List (String × String)) : Draft × Nat :=
  let (d, root) := d.add .root
  d.add (.element "template" attrs (some root))

def Spot.parent? (d : Draft) : Spot → Option Nat
  | .under parent => some parent
  | .before sibling => d.parent? sibling

def insertInFrontOf (x y : Nat) : List Nat → List Nat
  | [] => [x]
  | z :: zs => if z == y then x :: z :: zs else z :: insertInFrontOf x y zs

def detach (d : Draft) (id : Nat) : Draft :=
  match d.parent? id with
  | none => d
  | some parent =>
    (d.modify parent fun c => { c with children := c.children.filter (· != id) }).modify id
      fun c => { c with parent := none }

def move (d : Draft) (spot : Spot) (id : Nat) : Draft :=
  let d := d.detach id
  match spot.parent? d with
  | none => d
  | some parent =>
    let place :=
      match spot with
      | .under _ => (· ++ [id])
      | .before sibling => insertInFrontOf id sibling
    (d.modify parent fun c => { c with children := place c.children }).modify id
      fun c => { c with parent := some parent }

def moveChildren (d : Draft) (source target : Nat) : Draft :=
  (d.children source).foldl (fun d id => d.move (.under target) id) d

def insertComment (d : Draft) (spot : Spot) (s : String) : Draft :=
  let (d, id) := d.add (.comment s)
  d.move spot id

def Spot.previous? (d : Draft) : Spot → Option Nat
  | .under parent => (d.children parent).getLast?
  | .before sibling =>
    (d.parent? sibling).bind fun parent =>
      ((d.children parent).takeWhile (· != sibling)).getLast?

/-- Text joins the text just before it. -/
def insertText (d : Draft) (spot : Spot) (s : String) : Draft :=
  let joined := (spot.previous? d).bind fun id =>
    match d.cells[id]? with
    | some ⟨.text t, _, _⟩ => some (d.modify id fun c => { c with content := .text (t ++ s) })
    | _ => none
  joined.getD <|
    let (d, id) := d.add (.text s)
    d.move spot id

def addAttributes (d : Draft) (id : Nat) (extra : List (String × String)) : Draft :=
  d.modify id fun c =>
    match c.content with
    | .element tag attrs template =>
      let missing := extra.filter fun (name, _) => (attrs.lookup name).isNone
      { c with content := .element tag (attrs ++ missing) template }
    | _ => c

/-- The tree under a node. Its depth is at most the number of nodes, which suffices for `fuel`. -/
def node? (d : Draft) : Nat → Nat → Option Node
  | 0, _ => none
  | fuel + 1, id =>
    d.cells[id]?.bind fun cell =>
      match cell.content with
      | .root => none
      | .doctype name => some (.doctype name)
      | .text s => some (.text s)
      | .comment s => some (.comment s)
      | .element tag attrs template =>
        some <| .element tag attrs (cell.children.filterMap (d.node? fuel))
          (((template.map d.children).getD []).filterMap (d.node? fuel))

def document (d : Draft) : Document := ⟨(d.children 0).filterMap (d.node? d.cells.size)⟩

end Draft

end HeadAudit.Markup

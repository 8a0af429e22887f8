import HeadAudit.Live.View

namespace HeadAudit.Live

/-- A document; its key tells it from every other one, a copy included. -/
structure Document where
  key : Nat
  tree : Tree
  html : NodeId
  head : NodeId
  body : NodeId

structure Handle where
  key : Nat
  id : NodeId
  deriving DecidableEq

namespace Document

def handle (d : Document) (id : NodeId) : Handle := ⟨d.key, id⟩

def copy (d : Document) (key : Nat) : Document := { d with key }

def ofTree (key : Nat) (tree : Tree) : Document :=
  let html := (tree.findElement .root "html").getD .absent
  { key
    tree
    html
    head := (tree.findElement html "head").getD .absent
    body := (tree.findElement html "body").getD .absent }

def emptyTree : Tree :=
  let (t, html) := Tree.empty.createElement "html" []
  let (t, head) := t.createElement "head" []
  let (t, body) := t.createElement "body" []
  ((t.attach .root html none).attach html head none).attach html body none

def empty (key : Nat) : Document := ofTree key emptyTree

def title (d : Document) : String :=
  (((d.tree.children d.head).find? (d.tree.hasTag "title")).map d.tree.textContent).getD ""

def withTree (d : Document) (tree : Tree) : Document := { d with tree }

def createElement (d : Document) (tag : String) (attrs : List (String × String)) :
    Document × Handle :=
  let (tree, id) := d.tree.createElement tag attrs
  (d.withTree tree, d.handle id)

def append (d : Document) (parent child : Handle) : Except EditError Document :=
  (d.tree.appendChild parent.id child.id).map d.withTree

def insertBefore (d : Document) (parent child : Handle) (reference : Option Handle) :
    Except EditError Document :=
  (d.tree.insertBefore parent.id child.id (reference.map (·.id))).map d.withTree

def remove (d : Document) (node : Handle) : Except EditError Document :=
  match d.tree.parent? node.id with
  | some parent => (d.tree.removeChild parent node.id).map d.withTree
  | none => .ok d

/-- Make an element at the end of the head. It is made also where there is no head to take it. -/
def appendToHead (d : Document) (tag : String) (attrs : List (String × String)) :
    Document × Except EditError Handle :=
  let (d, element) := d.createElement tag attrs
  match d.append (d.handle d.head) element with
  | .ok d => (d, .ok element)
  | .error e => (d, .error e)

def setAttribute (d : Document) (node : Handle) (name value : String) :
    Except EditError Document :=
  (d.tree.setAttribute node.id name value).map d.withTree

def removeAttribute (d : Document) (node : Handle) (name : String) :
    Except EditError (Document × Option String) :=
  (d.tree.removeAttribute node.id name).map fun (tree, value) => (d.withTree tree, value)

def setText (d : Document) (node : Handle) (s : String) : Document × Except EditError Unit :=
  let (tree, result) := d.tree.setText node.id s
  (d.withTree tree, result)

end Document

end HeadAudit.Live

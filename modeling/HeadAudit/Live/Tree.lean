import HeadAudit.Live.Node

namespace HeadAudit.Live

inductive EditError where
  | notFound (id : NodeId)
  | hierarchy (child parent : NodeId)
  | notAChild (parent child : NodeId)
  | notAnElement (id : NodeId)
  deriving DecidableEq

def EditError.message : EditError → String
  | .notFound id => s!"Node {id.text} not found"
  | .hierarchy child parent =>
    s!"Hierarchy request error: {child.text} cannot be inserted under {parent.text}"
  | .notAChild parent child => s!"Node {child.text} is not a child of {parent.text}"
  | .notAnElement id => s!"Node {id.text} is not an element"

/-- Nodes in the order in which they were made, linked by their ids. Nodes are never dropped: one
that is taken out stays in the tree without a parent, and its id stays good. -/
structure Tree where
  nodes : Array Node
  deriving DecidableEq

namespace Tree

def empty : Tree := ⟨#[{ content := .document }]⟩

def size (t : Tree) : Nat := t.nodes.size

def get? (t : Tree) (id : NodeId) : Option Node := t.nodes[id.index]?

def contains (t : Tree) (id : NodeId) : Bool := (t.get? id).isSome

/-- Change one node; an id without a node changes nothing. -/
def update (t : Tree) (id : NodeId) (f : Node → Node) : Tree := ⟨t.nodes.modify id.index f⟩

/-- Make a node that stands nowhere yet. Ids do not wrap around: with ids of 32 bits, whatever holds
of trees of any size holds of those with fewer than 2 ^ 32 - 1 nodes only. -/
def create (t : Tree) (content : Content) : Tree × NodeId :=
  (⟨t.nodes.push { content }⟩, ⟨t.nodes.size⟩)

def createElement (t : Tree) (tag : String) (attrs : List (String × String)) : Tree × NodeId :=
  t.create (.element (Ascii.lower tag) (Attributes.setAll [] attrs))

def createText (t : Tree) (s : String) : Tree × NodeId := t.create (.text s)

def createComment (t : Tree) (s : String) : Tree × NodeId := t.create (.comment s)

def parent? (t : Tree) (id : NodeId) : Option NodeId :=
  ((t.get? id).map (·.parent)).filter (· ≠ .absent)

def chain (t : Tree) : Nat → NodeId → List NodeId
  | 0, _ => []
  | fuel + 1, id =>
    match t.get? id with
    | some node => id :: chain t fuel node.next
    | none => []

def children (t : Tree) (id : NodeId) : List NodeId :=
  t.chain t.size (((t.get? id).map (·.firstChild)).getD .absent)

def lineage (t : Tree) : Nat → NodeId → List NodeId
  | 0, _ => []
  | fuel + 1, id =>
    match t.parent? id with
    | some parent => id :: lineage t fuel parent
    | none => [id]

def isInclusiveAncestor (t : Tree) (ancestor id : NodeId) : Bool :=
  ancestor ∈ t.lineage (t.size + 1) id

/-- Make `next` follow `previous` under `parent`. Where either is absent, the parent has it as its
first or last child. -/
def join (t : Tree) (parent previous next : NodeId) : Tree :=
  let t := if t.contains previous then t.update previous ({ · with next := next })
    else t.update parent ({ · with firstChild := next })
  if t.contains next then t.update next ({ · with previous := previous })
  else t.update parent ({ · with lastChild := previous })

def detach (t : Tree) (id : NodeId) : Tree :=
  match t.get? id with
  | none => t
  | some node =>
    (t.join node.parent node.previous node.next).update id fun node =>
      { node with parent := .absent, previous := .absent, next := .absent }

def attach (t : Tree) (parent child : NodeId) (reference : Option NodeId) : Tree :=
  let (previous, next) :=
    match reference with
    | some reference => (((t.get? reference).map (·.previous)).getD .absent, reference)
    | none => (((t.get? parent).map (·.lastChild)).getD .absent, .absent)
  let t := t.update child fun node => { node with parent, previous, next }
  let t := if t.contains previous then t.update previous ({ · with next := child })
    else t.update parent ({ · with firstChild := child })
  if t.contains next then t.update next ({ · with previous := child })
  else t.update parent ({ · with lastChild := child })

def insertError? (t : Tree) (parent child : NodeId) (reference : Option NodeId) :
    Option EditError :=
  if !t.contains parent then some (.notFound parent)
  else if !t.contains child then some (.notFound child)
  else if child = .root || t.isInclusiveAncestor child parent then some (.hierarchy child parent)
  else
    match reference with
    | none => none
    | some reference =>
      match t.get? reference with
      | none => some (.notFound reference)
      | some node => if node.parent = parent then none else some (.notAChild parent reference)

/-- Insert `child` under `parent`, before `reference` or at the end. A node that stands elsewhere
moves, and nothing happens if it is to go before itself. -/
def insertBefore (t : Tree) (parent child : NodeId) (reference : Option NodeId) :
    Except EditError Tree :=
  match t.insertError? parent child reference with
  | some e => .error e
  | none =>
    .ok (if reference = some child then t else (t.detach child).attach parent child reference)

def appendChild (t : Tree) (parent child : NodeId) : Except EditError Tree :=
  t.insertBefore parent child none

def removeChild (t : Tree) (parent child : NodeId) : Except EditError Tree :=
  match t.get? child with
  | none => .error (.notFound child)
  | some node =>
    if node.parent = parent then .ok (t.detach child) else .error (.notAChild parent child)

def updateAttrs (t : Tree) (id : NodeId) (f : Attributes → Attributes) : Except EditError Tree :=
  match t.get? id with
  | none => .error (.notFound id)
  | some node =>
    match node.content with
    | .element tag attrs => .ok (t.update id ({ · with content := .element tag (f attrs) }))
    | _ => .error (.notAnElement id)

def setAttribute (t : Tree) (id : NodeId) (name value : String) : Except EditError Tree :=
  t.updateAttrs id (Attributes.set name value)

def removeAttribute (t : Tree) (id : NodeId) (name : String) :
    Except EditError (Tree × Option String) :=
  (t.updateAttrs id (Attributes.erase name)).map fun changed =>
    (changed, ((t.get? id).map Node.attrs).bind (Attributes.get? · name))

/-- Replace the children of a node by one text node, or by nothing for empty text. The tree that is
left is given also where the edit fails. -/
def setText (t : Tree) (id : NodeId) (s : String) : Tree × Except EditError Unit :=
  let bare := (t.children id).foldl detach t
  if s.isEmpty then (bare, .ok ())
  else
    let (t, text) := bare.createText s
    match t.appendChild id text with
    | .ok t => (t, .ok ())
    | .error e => (t, .error e)

def textContent (t : Tree) (id : NodeId) : String :=
  "".intercalate ((t.children id).filterMap fun child => (t.get? child).bind Node.text?)

def hasTag (t : Tree) (tag : String) (id : NodeId) : Bool :=
  ((t.get? id).bind Node.tag?) == some tag

def findWithin (t : Tree) (tag : String) : Nat → NodeId → Option NodeId
  | 0, _ => none
  | fuel + 1, start =>
    (t.children start).findSome? fun child =>
      if t.hasTag tag child then some child else findWithin t tag fuel child

def findElement (t : Tree) (start : NodeId) (tag : String) : Option NodeId :=
  t.findWithin tag t.size start

end Tree

end HeadAudit.Live

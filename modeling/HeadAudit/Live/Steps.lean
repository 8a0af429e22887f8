import HeadAudit.Live.Tree
import HeadAudit.Steps

namespace HeadAudit.Live.Tree

abbrev Steps := EStateM EditError Tree

namespace Steps

def node (id : NodeId) : Steps Node := do
  match (← get).get? id with
  | some node => return node
  | none => throw (.notFound id)

def modifyNode (id : NodeId) (f : Node → Node) : Steps Unit := do
  let _ ← node id
  modify (·.update id f)

def create (content : Content) : Steps NodeId := modifyGet fun t => (t.create content).swap

def detach (id : NodeId) : Steps Unit := modify (·.detach id)

def checkInsert (parent child : NodeId) (reference : Option NodeId) : Steps Unit := do
  let _ ← node parent
  let _ ← node child
  refuseIf (child = .root || (← get).isInclusiveAncestor child parent) (.hierarchy child parent)
  match reference with
  | some reference => refuseIf ((← node reference).parent ≠ parent) (.notAChild parent reference)
  | none => return

/-- Change a node if it is there, and otherwise another one, which has to be. -/
def modifyOr (id : NodeId) (f : Node → Node) (other : NodeId) (g : Node → Node) : Steps Unit := do
  if (← get).contains id then modify (·.update id f) else modifyNode other g

def place (parent : NodeId) : Option NodeId → Steps (NodeId × NodeId)
  | some reference => do return ((← node reference).previous, reference)
  | none => do return ((← node parent).lastChild, .absent)

def linkBetween (parent child previous next : NodeId) : Steps Unit := do
  modifyNode child fun node => { node with parent, previous, next }
  modifyOr previous ({ · with next := child }) parent ({ · with firstChild := child })
  modifyOr next ({ · with previous := child }) parent ({ · with lastChild := child })

-- All nodes are looked up again here, after the node has left its old place. That none of this is
-- refused any more is up to the checks before.
def link (parent child : NodeId) (reference : Option NodeId) : Steps Unit := do
  let (previous, next) ← place parent reference
  linkBetween parent child previous next

def insertBefore (parent child : NodeId) (reference : Option NodeId) : Steps Unit := do
  checkInsert parent child reference
  if reference ≠ some child then
    detach child
    link parent child reference

def appendChild (parent child : NodeId) : Steps Unit := insertBefore parent child none

def removeChild (parent child : NodeId) : Steps Unit := do
  refuseIf ((← node child).parent ≠ parent) (.notAChild parent child)
  detach child

def updateAttrs (id : NodeId) (f : Attributes → Attributes) : Steps Attributes := do
  match (← node id).content with
  | .element tag attrs =>
    modify (·.update id ({ · with content := .element tag (f attrs) }))
    return attrs
  | _ => throw (.notAnElement id)

def setAttribute (id : NodeId) (name value : String) : Steps Unit := do
  let _ ← updateAttrs id (Attributes.set name value)

def removeAttribute (id : NodeId) (name : String) : Steps (Option String) := do
  return (← updateAttrs id (Attributes.erase name)).get? name

def setText (id : NodeId) (s : String) : Steps Unit := do
  ((← get).children id).forM detach
  if !s.isEmpty then
    appendChild id (← create (.text s))

end Steps

end HeadAudit.Live.Tree

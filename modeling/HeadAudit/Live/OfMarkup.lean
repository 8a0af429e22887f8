import HeadAudit.Live.Document
import HeadAudit.Markup.Node
import HeadAudit.Text.Blank

namespace HeadAudit.Live

namespace Tree

mutual

/-- Copy a node with all that is below it to the end of a live node's children. Blank text, document
types and the content of templates stay behind. -/
def copyNode (t : Tree) (parent : NodeId) : Markup.Node → Except EditError Tree
  | .doctype _ => .ok t
  | .text s =>
    if Text.blank s then .ok t
    else
      let (t, id) := t.createText s
      t.appendChild parent id
  | .comment s =>
    let (t, id) := t.createComment s
    t.appendChild parent id
  | .element tag attrs children _ => do
    let (t, id) := t.createElement tag attrs
    copyNodes (← t.appendChild parent id) id children

def copyNodes (t : Tree) (parent : NodeId) : List Markup.Node → Except EditError Tree
  | [] => .ok t
  | n :: ns => do copyNodes (← copyNode t parent n) parent ns

end

end Tree

namespace Document

def ofMarkup (key : Nat) (d : Markup.Document) : Except EditError Document :=
  (Tree.copyNodes .empty .root d.nodes).map (ofTree key)

end Document

end HeadAudit.Live

import HeadAudit.Adapter.Basic
import HeadAudit.Live.Tree

namespace HeadAudit.Live

def adapterName : String := "dom"

namespace Tree

def isElement (t : Tree) (id : NodeId) : Bool := (t.get? id).any Node.isElement

def adapter (t : Tree) : Adapter NodeId where
  name := adapterName
  isElement := t.isElement
  tagName id := ((t.get? id).bind Node.tag?).getD ""
  attr id name := (t.get? id).bind (Attributes.get? ·.attrs name)
  attrNames id := ((t.get? id).map (·.attrs.map (·.1))).getD []
  textContent id := if t.isElement id then t.textContent id else ""
  children id := if t.isElement id then (t.children id).filter t.isElement else []
  parent id := (t.parent? id).filter t.isElement
  height := t.size

end Tree

end HeadAudit.Live

import HeadAudit.Adapter.Basic
import HeadAudit.Markup.Located
import HeadAudit.Text.Ascii
import HeadAudit.Text.Blank

namespace HeadAudit.Markup

def adapterName : String := "rcdom"

def Node.visibleText? : Node → Option String
  | .text s => if Text.blank s then none else some s
  | _ => none

namespace Document

def isElement (d : Document) (place : Place) : Bool := (d.get? place).any Node.isElement

def children (d : Document) (place : Place) : List Place :=
  if d.isElement place then
    (d.below place).zipIdx.filterMap fun (n, i) =>
      if n.isElement then some (.child i :: place) else none
  else []

/-- The element around a place. The content of a template has none. -/
def parent? (d : Document) : Place → Option Place
  | .child _ :: outer => if d.isElement outer then some outer else none
  | _ => none

def handleText (d : Document) (place : Place) : String :=
  match (d.get? place).bind Node.tag? with
  | some tag => s!"StaticNode(<{tag}>)"
  | none => "StaticNode(#node)"

def adapter (d : Document) (locations : Option LocationTable) : Adapter Place where
  name := adapterName
  isElement := d.isElement
  tagName place := (((d.get? place).bind Node.tag?).map Ascii.lower).getD ""
  attr place name := (d.get? place).bind fun n => (n.attrs.find? (Ascii.same ·.1 name)).map (·.2)
  attrNames place := ((d.get? place).map (·.attrs.map (·.1))).getD []
  textContent place :=
    let content := ((d.get? place).map Node.children).getD []
    "".intercalate (content.filterMap Node.visibleText?)
  children := d.children
  parent := d.parent?
  location place := locations.bind (·.lookup place)
  capabilities := if locations.isSome then Capability.withLocation else Capability.required
  height := Node.sizes d.nodes

end Document

end HeadAudit.Markup

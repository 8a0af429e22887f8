import HeadAudit.Markup.Node
import HeadAudit.Markup.Position
import HeadAudit.Markup.StartTag

namespace HeadAudit.Markup

abbrev LocationTable := List (Place × Location)

namespace Located

def inside (place : Place) (n : Node) : List (Place × Node) :=
  n.template.zipIdx.map (fun (m, i) => (.content i :: place, m)) ++
    n.children.zipIdx.map fun (m, i) => (.child i :: place, m)

/-- The elements among the nodes on a stack and all nodes inside of them. The node on top is taken
off, and the nodes right inside of it come on top in its stead. Each node that is taken off uses up
fuel. -/
def visit : Nat → List (Place × Node) → List (Place × String)
  | fuel + 1, (place, n) :: stack =>
    (n.tag?.map (place, ·)).toList ++ visit fuel (inside place n ++ stack)
  | _, _ => []

def visited (d : Document) : List (Place × String) :=
  visit (Node.sizes d.nodes) (d.nodes.zipIdx.map fun (n, i) => ([.child i], n))

/-- Each element, in the order of start tags, takes the next start tag of its name. Elements for
which none is left were made by the parser and have no location. -/
def pair : List (Place × String) → List StartTag → List (Place × StartTag)
  | [], _ => []
  | (place, tag) :: elements, tags =>
    match tags.dropWhile (·.name != tag) with
    | found :: later => (place, found) :: pair elements later
    | [] => pair elements tags

def location (source : String) (tag : StartTag) : Location :=
  let (line, column) := Position.of source tag.start
  let (endLine, endColumn) := Position.of source tag.stop
  { line, column, endLine? := some endLine, endColumn? := some endColumn }

def table (d : Document) (source : String) : LocationTable :=
  (pair (visited d) (StartTag.scan source)).map fun (place, tag) => (place, location source tag)

end Located

end HeadAudit.Markup

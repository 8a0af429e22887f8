import HeadAudit.Text.Ascii

namespace HeadAudit.Live

structure NodeId where
  index : Nat
  deriving DecidableEq

namespace NodeId

def root : NodeId := ⟨0⟩

/-- The id that stands where no node is linked. -/
def absent : NodeId := ⟨4294967295⟩

def text (id : NodeId) : String := s!"NodeId({id.index})"

def handleText (id : NodeId) : String := "LiveNode \x7b id: " ++ id.text ++ " \x7d"

end NodeId

/-- Names with values in the order in which they were first set. Names are in lower case and are
looked up in any case. -/
abbrev Attributes := List (String × String)

namespace Attributes

def get? (attrs : Attributes) (name : String) : Option String :=
  (attrs.find? fun attr => Ascii.same attr.1 name).map (·.2)

/-- Give a name its value. A name that is there keeps its place, a new one goes to the end. -/
def set (name value : String) : Attributes → Attributes
  | [] => [(Ascii.lower name, value)]
  | attr :: rest =>
    if Ascii.same attr.1 name then (attr.1, value) :: rest else attr :: set name value rest

def erase (name : String) : Attributes → Attributes
  | [] => []
  | attr :: rest => if Ascii.same attr.1 name then rest else attr :: erase name rest

def setAll (attrs : Attributes) (more : List (String × String)) : Attributes :=
  more.foldl (fun attrs attr => set attr.1 attr.2 attrs) attrs

end Attributes

inductive Content where
  | document
  | element (tag : String) (attrs : Attributes)
  | text (s : String)
  | comment (s : String)
  deriving DecidableEq

structure Node where
  parent : NodeId := .absent
  firstChild : NodeId := .absent
  lastChild : NodeId := .absent
  previous : NodeId := .absent
  next : NodeId := .absent
  content : Content
  deriving DecidableEq

namespace Node

def isElement (n : Node) : Bool :=
  match n.content with
  | .element .. => true
  | _ => false

def tag? (n : Node) : Option String :=
  match n.content with
  | .element tag _ => some tag
  | _ => none

def attrs (n : Node) : Attributes :=
  match n.content with
  | .element _ attrs => attrs
  | _ => []

def text? (n : Node) : Option String :=
  match n.content with
  | .text s => some s
  | _ => none

end Node

end HeadAudit.Live

import HeadAudit.Adapter.Capability

namespace HeadAudit

structure Location where
  line : Nat
  column : Nat
  endLine? : Option Nat
  endColumn? : Option Nat
  deriving DecidableEq

namespace Location

def text (l : Location) : String := s!"{l.line}:{l.column}"

def endLine (l : Location) : Nat := l.endLine?.getD l.line

def endColumn (l : Location) : Nat := l.endColumn?.getD l.column

end Location

/-- A read-only view of a tree whose nodes are handles of type `ν`; handles are equal only if they
name the same node. Names are in lower case, and attributes are looked up in any case. What is
worked out from the fields (`hasAttr`, `siblings`, `selects`, the written markup, the missing
capability) is fixed to its default: no view comes with a way of its own for it. -/
structure Adapter (ν : Type) where
  name : String
  isElement : ν → Bool
  tagName : ν → String
  attr : ν → String → Option String
  attrNames : ν → List String
  textContent : ν → String
  children : ν → List ν
  /-- The parent if it is an element. -/
  parent : ν → Option ν
  location : ν → Option Location := fun _ => none
  capabilities : List Capability := Capability.required
  /-- No chain of parents or children is longer. -/
  height : Nat

namespace Adapter

variable {ν : Type}

def hasAttr (a : Adapter ν) (node : ν) (name : String) : Bool := (a.attr node name).isSome

def siblings [DecidableEq ν] (a : Adapter ν) (node : ν) : List ν :=
  match a.parent node with
  | some parent => (a.children parent).filter (· ≠ node)
  | none => []

def ascend (a : Adapter ν) : Nat → ν → ν
  | 0, node => node
  | fuel + 1, node =>
    match a.parent node with
    | some parent => ascend a fuel parent
    | none => node

def root (a : Adapter ν) (node : ν) : ν := a.ascend a.height node

def missingCapability? (a : Adapter ν) : Option Capability := Capability.missing? a.capabilities

end Adapter

end HeadAudit

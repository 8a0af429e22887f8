import HeadAudit.Rule

namespace HeadAudit

variable {ν : Type}

structure Weighted (ν : Type) where
  element : ν
  category : Category
  weight : Nat
  deriving DecidableEq

/-- An element that should come before the one in front of it; `index` is its place in the head. -/
structure Violation (ν : Type) where
  index : Nat
  element : ν
  weight : Nat
  category : Category
  previous : ν
  previousWeight : Nat
  previousCategory : Category
  deriving DecidableEq

def Violation.message (v : Violation ν) : String :=
  s!"{v.category.name} (weight {v.weight}) should come before {v.previousCategory.name} " ++
    s!"(weight {v.previousWeight})"

def weigh (a : Adapter ν) (head : ν) : List (Weighted ν) :=
  (a.children head).map fun element =>
    let category := Rule.classify a element
    { element, category, weight := category.weight }

namespace Ordering

def violation (index : Nat) (previous current : Weighted ν) : Violation ν where
  index
  element := current.element
  weight := current.weight
  category := current.category
  previous := previous.element
  previousWeight := previous.weight
  previousCategory := previous.category

/-- Neighbours of which the later outweighs the earlier; the first entry stands at `index`. -/
def violationsFrom (index : Nat) : List (Weighted ν) → List (Violation ν)
  | previous :: current :: rest =>
    let more := violationsFrom (index + 1) (current :: rest)
    if previous.weight < current.weight then violation (index + 1) previous current :: more
    else more
  | _ => []

def violations (weights : List (Weighted ν)) : List (Violation ν) := violationsFrom 0 weights

end Ordering

end HeadAudit

namespace HeadAudit

inductive Capability where
  | isElement
  | tagName
  | attributes
  | textContent
  | children
  | parent
  | siblings
  | matches
  | stringify
  | location
  deriving DecidableEq

namespace Capability

def required : List Capability :=
  [.isElement, .tagName, .attributes, .textContent, .children, .parent, .siblings, .matches,
    .stringify]

def withLocation : List Capability := required ++ [.location]

def name : Capability → String
  | .isElement => "is-element"
  | .tagName => "tag-name"
  | .attributes => "attributes"
  | .textContent => "text-content"
  | .children => "children"
  | .parent => "parent"
  | .siblings => "siblings"
  | .matches => "matches"
  | .stringify => "stringify"
  | .location => "location"

def method : Capability → String
  | .isElement => "is_element"
  | .tagName => "tag_name"
  | .attributes => "attribute"
  | .textContent => "text_content"
  | .children => "children"
  | .parent => "parent"
  | .siblings => "siblings"
  | .matches => "matches"
  | .stringify => "stringify"
  | .location => "location"

def isRequired (c : Capability) : Bool := c ∈ required

def missing? (provided : List Capability) : Option Capability :=
  required.find? (· ∉ provided)

theorem missing?_eq_none_iff {provided : List Capability} :
    missing? provided = none ↔ ∀ c ∈ required, c ∈ provided := by
  simp [missing?]

end Capability

end HeadAudit

namespace HeadAudit

abbrev Dictionary (α : Type) := List (String × α)

namespace Dictionary

variable {α : Type}

def get? (d : Dictionary α) (key : String) : Option α := d.lookup key

def contains (d : Dictionary α) (key : String) : Bool := (get? d key).isSome

/-- Set the value of a key; a new key goes to its place in the order. -/
def insert (key : String) (value : α) : Dictionary α → Dictionary α
  | [] => [(key, value)]
  | (k, v) :: rest =>
    if key = k then (key, value) :: rest
    else if key < k then (key, value) :: (k, v) :: rest
    else (k, v) :: insert key value rest

def insertNew (key : String) (value : α) (d : Dictionary α) : Dictionary α :=
  if contains d key then d else insert key value d

end Dictionary

end HeadAudit

import HeadAudit.Text.Ascii
import HeadAudit.Text.Blank
import HeadAudit.Text.Dictionary

namespace HeadAudit

structure Policy where
  directives : Dictionary (List String)
  deriving DecidableEq

namespace Policy

def contains (p : Policy) (directive : String) : Bool := Dictionary.contains p.directives directive

def get? (p : Policy) (directive : String) : Option (List String) :=
  Dictionary.get? p.directives directive

/-- Add one directive with its values. Only the first of a name counts. -/
def add (p : Policy) (directive : String) : Policy :=
  match Text.words directive with
  | [] => p
  | name :: values => ⟨Dictionary.insertNew (Ascii.lower name) values p.directives⟩

def parse (s : String) : Policy := (Text.pieces ';' s).foldl add ⟨[]⟩

end Policy

end HeadAudit

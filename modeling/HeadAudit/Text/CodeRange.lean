import HeadAudit.Text.Ascii
import HeadAudit.Text.Blank

namespace HeadAudit

structure CodeRange where
  first : Nat
  last : Nat
  deriving DecidableEq

namespace CodeRange

def contains (r : CodeRange) (n : Nat) : Bool := r.first ≤ n && n ≤ r.last

def ofText (cs : List Char) : CodeRange :=
  let (first, rest) := cs.span (· != '-')
  let last := if rest.isEmpty then first else rest.drop 1
  ⟨Ascii.valueIn 16 first, Ascii.valueIn 16 last⟩

/-- A table is a text of words. A word is a range, and behind an equals sign it may say what the
range is listed for. Code points are in hexadecimal. -/
def tableOf (text : String) : List CodeRange :=
  (Text.words text).map fun word => ofText word.toList

def covers (table : List CodeRange) (n : Nat) : Bool := table.any (·.contains n)

def labelled {α : Type} (read : List Char → α) (text : String) : List (CodeRange × α) :=
  (Text.words text).map fun word =>
    let (range, label) := word.toList.span (· != '=')
    (ofText range, read (label.drop 1))

def label? {α : Type} (table : List (CodeRange × α)) (n : Nat) : Option α :=
  (table.find? (·.1.contains n)).map (·.2)

def codes (cs : List Char) : List Nat :=
  (cs.splitOnP (· == ',')).map (Ascii.valueIn 16)

end CodeRange

end HeadAudit

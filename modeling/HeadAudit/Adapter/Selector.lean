import HeadAudit.Text.Ascii
import HeadAudit.Text.Blank
import HeadAudit.Adapter.Basic

namespace HeadAudit

structure AttributeTest where
  name : String
  value : Option String := none
  ignoreCase : Bool := false
  deriving DecidableEq

structure Selector where
  tag : Option String
  tests : List AttributeTest
  deriving DecidableEq

namespace Selector

def isIdentChar (c : Char) : Bool := c.isAlphanum || c == '-' || c == '_'

def skipBlanks (cs : List Char) : List Char := cs.dropWhile Ascii.isBlank

def ident? (cs : List Char) : Option (List Char × List Char) :=
  let name := cs.takeWhile isIdentChar
  if name.isEmpty then none else some (name, cs.dropWhile isIdentChar)

def value? (cs : List Char) : Option (List Char × List Char) :=
  match cs with
  | [] => none
  | c :: rest =>
    if c == '"' || c == '\'' then
      match rest.dropWhile (· != c) with
      | _ :: after => some (rest.takeWhile (· != c), after)
      | [] => none
    else ident? cs

/-- The flag behind a value: true for `i` in either case; `s` says what holds anyway. -/
def flag (cs : List Char) : Bool × List Char :=
  match cs with
  | c :: rest =>
    if c == 'i' || c == 'I' then (true, rest)
    else if c == 's' || c == 'S' then (false, rest)
    else (false, cs)
  | [] => (false, [])

def lowered (cs : List Char) : String := String.ofList (cs.map Char.toLower)

def comparison? (cs : List Char) : Option ((Option String × Bool) × List Char) :=
  match cs with
  | '=' :: rest => do
    let (value, rest) ← value? (skipBlanks rest)
    let (ignoreCase, rest) := flag (skipBlanks rest)
    return ((some (String.ofList value), ignoreCase), skipBlanks rest)
  | cs => some ((none, false), cs)

def test? (cs : List Char) : Option (AttributeTest × List Char) := do
  let (name, rest) ← ident? (skipBlanks cs)
  let ((value, ignoreCase), rest) ← comparison? (skipBlanks rest)
  match rest with
  | ']' :: rest => return ({ name := lowered name, value, ignoreCase }, rest)
  | _ => none

/-- Tests up to the end of the text. Each takes a character at least. -/
def tests? : Nat → List Char → Option (List AttributeTest)
  | _, [] => some []
  | fuel + 1, '[' :: cs => do
    let (test, rest) ← test? cs
    return test :: (← tests? fuel rest)
  | _, _ => none

def parse? (s : String) : Option Selector :=
  match Text.strip Text.isBlank s.toList with
  | [] => none
  | '*' :: cs => (tests? cs.length cs).map (⟨none, ·⟩)
  | cs =>
    match ident? cs with
    | some (name, rest) => (tests? rest.length rest).map (⟨some (lowered name), ·⟩)
    | none => (tests? cs.length cs).map (⟨none, ·⟩)

end Selector

variable {ν : Type}

def AttributeTest.holds (t : AttributeTest) (a : Adapter ν) (node : ν) : Bool :=
  match a.attr node t.name, t.value with
  | none, _ => false
  | some _, none => true
  | some actual, some wanted =>
    if t.ignoreCase then Ascii.same actual wanted else actual == wanted

def Selector.holds (s : Selector) (a : Adapter ν) (node : ν) : Bool :=
  a.isElement node && s.tag.all (a.tagName node == ·) && s.tests.all (·.holds a node)

namespace Adapter

def selects (a : Adapter ν) (node : ν) (pattern : String) : Bool :=
  (Selector.parse? pattern).any (·.holds a node)

def selectsAny (a : Adapter ν) (node : ν) (patterns : List String) : Bool :=
  patterns.any (a.selects node)

end Adapter

end HeadAudit

import HeadAudit.Adapter.Basic

namespace HeadAudit

namespace Written

def voidTags : List String :=
  ["area", "base", "br", "col", "embed", "hr", "img", "input", "link", "meta", "source", "track",
    "wbr"]

def isVoid (tag : String) : Bool := tag ∈ voidTags

def isRaw (tag : String) : Bool := tag ∈ ["script", "style", "noscript", "template"]

def attributeChar (c : Char) : List Char :=
  if c == '&' then "&amp;".toList
  else if c == '"' then "&quot;".toList
  else if c == '\u00a0' then "&nbsp;".toList
  else [c]

def textChar (c : Char) : List Char :=
  if c == '&' then "&amp;".toList
  else if c == '<' then "&lt;".toList
  else if c == '>' then "&gt;".toList
  else if c == '\u00a0' then "&nbsp;".toList
  else [c]

def attributeValue (s : String) : String := String.ofList (s.toList.flatMap attributeChar)

def text (tag s : String) : String :=
  if isRaw tag then s else String.ofList (s.toList.flatMap textChar)

def attr (name : String) (value : Option String) : String :=
  " " ++ name ++ "=\"" ++ (value.map attributeValue).getD "" ++ "\""

def openTag (tag : String) (attributes : List (String × Option String)) : String :=
  "<" ++ tag ++ "".intercalate (attributes.map fun (name, value) => attr name value) ++ ">"

def endTag (tag : String) : String := "</" ++ tag ++ ">"

end Written

namespace Adapter

open Written

variable {ν : Type}

def writeStart (a : Adapter ν) (node : ν) : String :=
  openTag (a.tagName node) ((a.attrNames node).map fun name => (name, a.attr node name))

def startTag (a : Adapter ν) (node : ν) : String :=
  if a.isElement node then a.writeStart node else ""

/-- The markup of a node and its descendants down to depth `fuel`. Text comes before all children,
as adapters do not tell where between them it stands. -/
def write (a : Adapter ν) : Nat → ν → String
  | 0, _ => ""
  | fuel + 1, node =>
    let tag := a.tagName node
    if isVoid tag then a.writeStart node
    else
      a.writeStart node ++ text tag (a.textContent node) ++
        "".intercalate ((a.children node).map (write a fuel)) ++ endTag tag

def outerHtml (a : Adapter ν) (node : ν) : String :=
  if a.isElement node then a.write (a.height + 1) node else ""

variable [DecidableEq ν]

/-- Walk over the markup of a node that starts at byte `pos`, as far as the end of `target`. The
walk ends early with the offset behind the target, or else passes on the offset behind the node. -/
def seek (a : Adapter ν) (target : ν) : Nat → ν → Nat → Except Nat Nat
  | 0, _, pos => .ok pos
  | fuel + 1, node, pos => do
    let tag := a.tagName node
    let inside := pos + (a.writeStart node).utf8ByteSize
    let behind ←
      if isVoid tag then pure inside
      else do
        let content := inside + (text tag (a.textContent node)).utf8ByteSize
        let content ←
          (a.children node).foldlM (fun pos child => seek a target fuel child pos) content
        pure (content + (endTag tag).utf8ByteSize)
    if node = target then throw behind else return behind

/-- The byte offset behind an element in the markup of the tree around it. Content of a void
element is not written and has none. -/
def endOffset? (a : Adapter ν) (target : ν) : Option Nat :=
  if a.isElement target then
    match a.seek target (a.height + 1) (a.root target) 0 with
    | .error offset => some offset
    | .ok _ => none
  else none

end Adapter

end HeadAudit

import HeadAudit.Text.Utf8
import HeadAudit.Url.Domain.Label

namespace HeadAudit.Domain

def forbidden (c : Char) : Bool :=
  c ≤ ' ' || c == '\x7f' ||
    c ∈ ['%', '#', '/', ':', '<', '>', '?', '@', '[', '\\', ']', '^', '`', '\x7b', '|', '\x7d']

def folded? (name : List Char) : Option (List Char) := do
  let folded := Composition.composed (← name.mapM fold?).flatten
  if folded.any forbidden then none else some folded

def labels? (folded : List Char) : Option (List Label) := do
  let labels ← (folded.splitOnP (· == '.')).mapM Label.ofFolded?
  if keepDirection labels then some labels else none

def toAscii? (bytes : List UInt8) : Option String := do
  let name ← Utf8.decode? bytes
  let labels ← labels? (← folded? name.toList)
  return String.ofList (['.'].intercalate (labels.map Label.resolved))

end HeadAudit.Domain

import HeadAudit.Adapter.Basic

namespace HeadAudit.Markup.Position

def breaks : Nat → List Char → List Nat
  | _, [] => []
  | pos, c :: cs =>
    let next := pos + c.utf8Size
    if c == '\n' then next :: breaks next cs else breaks next cs

def lineStarts (source : String) : List Nat := 0 :: breaks 0 source.toList

/-- The text from a byte offset on; none if the offset is beyond the end or inside a character. -/
def from? : List Char → Nat → Option (List Char)
  | cs, 0 => some cs
  | [], _ => none
  | c :: cs, n => if c.utf8Size ≤ n then from? cs (n - c.utf8Size) else none

def charCount? : List Char → Nat → Option Nat
  | _, 0 => some 0
  | [], _ => none
  | c :: cs, n => if c.utf8Size ≤ n then (charCount? cs (n - c.utf8Size)).map (· + 1) else none

/-- Line and column of an offset. Where the offset is no boundary between characters, the column
counts bytes. -/
def of (source : String) (offset : Nat) : Nat × Nat :=
  let before := (lineStarts source).takeWhile (· ≤ offset)
  let start := before.getLastD 0
  let count := (from? source.toList start).bind (charCount? · (offset - start))
  (before.length, count.getD (offset - start) + 1)

end HeadAudit.Markup.Position

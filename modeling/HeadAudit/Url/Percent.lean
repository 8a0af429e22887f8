import HeadAudit.Text.Ascii
import HeadAudit.Text.Utf8

namespace HeadAudit.Percent

def control (c : Char) : Bool := c < ' ' || '~' < c

def inQuery (c : Char) : Bool := control c || c ∈ [' ', '"', '#', '<', '>']

def inSpecialQuery (c : Char) : Bool := inQuery c || c == '\''

def inFragment (c : Char) : Bool := control c || c ∈ [' ', '"', '<', '>', '`']

def inPath (c : Char) : Bool := inFragment c || c ∈ ['#', '?', '\x7b', '\x7d']

def inUserinfo (c : Char) : Bool :=
  inPath c || c ∈ ['/', ':', ';', '=', '@', '[', '\\', ']', '^', '|']

def byte (b : UInt8) : List Char :=
  ['%', Ascii.upperHexDigit (b.toNat / 16), Ascii.upperHexDigit (b.toNat % 16)]

def encode (escaped : Char → Bool) (cs : List Char) : List Char :=
  cs.flatMap fun c => if escaped c then (String.utf8EncodeChar c).flatMap byte else [c]

/-- The bytes of a text with its escapes undone; a `%` without two digits stands for itself. -/
def decode : List Char → List UInt8
  | [] => []
  | '%' :: a :: b :: rest =>
    if Ascii.isHexDigit a && Ascii.isHexDigit b then
      UInt8.ofNat (Ascii.hexValue a * 16 + Ascii.hexValue b) :: decode rest
    else String.utf8EncodeChar '%' ++ decode (a :: b :: rest)
  | c :: rest => String.utf8EncodeChar c ++ decode rest

end HeadAudit.Percent

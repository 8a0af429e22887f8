import HeadAudit.Text.Ascii
import HeadAudit.Url.Percent
import HeadAudit.Url.Domain

namespace HeadAudit

inductive UrlFault where
  | emptyHost
  | internationalName
  | port
  | ipv4
  | ipv6
  | domainCharacter
  | relativeWithoutBase
  | relativeToOpaque
  deriving DecidableEq

def UrlFault.message : UrlFault → String
  | .emptyHost => "empty host"
  | .internationalName => "invalid international domain name"
  | .port => "invalid port number"
  | .ipv4 => "invalid IPv4 address"
  | .ipv6 => "invalid IPv6 address"
  | .domainCharacter => "invalid domain character"
  | .relativeWithoutBase => "relative URL without a base"
  | .relativeToOpaque => "relative URL with a cannot-be-a-base base"

inductive Host where
  | domain (name : String)
  | ipv4 (address : Nat)
  | ipv6 (pieces : List Nat)
  deriving DecidableEq

namespace Host

def ipv4Number? : List Char → Option Nat
  | [] => none
  | '0' :: x :: digits =>
    if x == 'x' || x == 'X' then
      if digits.all Ascii.isHexDigit then some (Ascii.valueIn 16 digits) else none
    else if (x :: digits).all (fun c => '0' ≤ c && c ≤ '7') then
      some (Ascii.valueIn 8 (x :: digits))
    else none
  | digits => if digits.all Char.isDigit then some (Ascii.valueIn 10 digits) else none

/-- The dot separated parts; a single dot at the end adds none. -/
def dotted (cs : List Char) : List (List Char) :=
  let parts := cs.splitOnP (· == '.')
  if parts.getLast? = some [] then parts.dropLast else parts

/-- A name whose last part is a number can only be an IPv4 address. -/
def endsInNumber (cs : List Char) : Bool :=
  match (dotted cs).getLast? with
  | some part => (!part.isEmpty && part.all Char.isDigit) || (ipv4Number? part).isSome
  | none => false

/-- Up to four numbers; all but the last are bytes, and the last one fills what is left. -/
def ipv4? (cs : List Char) : Option Nat := do
  let parts := dotted cs
  if 4 < parts.length then none
  let numbers ← parts.mapM ipv4Number?
  let last ← numbers.getLast?
  let front := numbers.dropLast
  let room := Nat.pow 256 (4 - front.length)
  if room ≤ last || front.any (255 < ·) then none
  return front.foldl (fun n b => n * 256 + b) 0 * room + last

def byte? (cs : List Char) : Option Nat :=
  if cs.isEmpty || !cs.all Char.isDigit || (cs.head? == some '0' && cs.length != 1) then none
  else
    let n := Ascii.valueIn 10 cs
    if n ≤ 255 then some n else none

def embedded? (cs : List Char) : Option (List Nat) := do
  match ← (cs.splitOnP (· == '.')).mapM byte? with
  | [a, b, c, d] => return [a * 256 + b, c * 256 + d]
  | _ => none

/-- The pieces of a colon separated text; only the last one may be dotted. -/
def pieces? (dottedAllowed : Bool) (cs : List Char) : Option (List Nat) := do
  if cs.isEmpty then return []
  let parts := cs.splitOnP (· == ':')
  let read ← parts.zipIdx.mapM fun (part, i) =>
    if part.contains '.' then
      if dottedAllowed && i + 1 == parts.length then embedded? part else none
    else if part.isEmpty || 4 < part.length || !part.all Ascii.isHexDigit then none
    else some [Ascii.valueIn 16 part]
  return read.flatten

def splitGap : List Char → Option (List Char × List Char)
  | [] => none
  | ':' :: ':' :: rest => some ([], rest)
  | c :: rest => (splitGap rest).map fun (a, b) => (c :: a, b)

def ipv6? (cs : List Char) : Option (List Nat) := do
  match splitGap cs with
  | none =>
    let pieces ← pieces? true cs
    if pieces.length = 8 then return pieces else none
  | some (front, back) =>
    let front ← pieces? false front
    let back ← pieces? true back
    if 8 ≤ front.length + back.length then none
    return front ++ List.replicate (8 - front.length - back.length) 0 ++ back

def zeros (pieces : List Nat) : Nat := (pieces.takeWhile (· == 0)).length

def longestGap : Nat → List Nat → Nat × Nat
  | _, [] => (0, 0)
  | i, p :: ps =>
    let here := zeros (p :: ps)
    let (start, size) := longestGap (i + 1) ps
    if size ≤ here then (i, here) else (start, size)

def hex (n : Nat) : String := String.ofList (Nat.toDigits 16 n)

/-- Pieces in hexadecimal; the first longest run of at least two zeros is a double colon. -/
def ipv6Text (pieces : List Nat) : String :=
  let (start, size) := longestGap 0 pieces
  if 2 ≤ size then
    ":".intercalate ((pieces.take start).map hex) ++ "::" ++
      ":".intercalate ((pieces.drop (start + size)).map hex)
  else ":".intercalate (pieces.map hex)

def text : Host → String
  | .domain name => name
  | .ipv4 n => ".".intercalate
      ([n / 16777216, n / 65536 % 256, n / 256 % 256, n % 256].map toString)
  | .ipv6 pieces => "[" ++ ipv6Text pieces ++ "]"

def bracketed (cs : List Char) : Except UrlFault Host :=
  if cs.getLast? != some ']' then .error .ipv6
  else
    match ipv6? (cs.drop 1).dropLast with
    | some pieces => .ok (.ipv6 pieces)
    | none => .error .ipv6

def ofName (cs : List Char) : Except UrlFault Host :=
  if cs.head? == some '[' then bracketed cs
  else
    match Domain.toAscii? (Percent.decode cs) with
    | none => .error .internationalName
    | some name =>
      if name.isEmpty then .error .emptyHost
      else if endsInNumber name.toList then
        match ipv4? name.toList with
        | some address => .ok (.ipv4 address)
        | none => .error .ipv4
      else .ok (.domain name)

def forbiddenOpaque (c : Char) : Bool :=
  c ∈ ['\x00', '\t', '\n', '\r', ' ', '#', '/', ':', '<', '>', '?', '@', '[', '\\', ']', '^', '|']

def ofOpaque (cs : List Char) : Except UrlFault Host :=
  if cs.head? == some '[' then bracketed cs
  else if cs.any forbiddenOpaque then .error .domainCharacter
  else .ok (.domain (String.ofList (Percent.encode Percent.control cs)))

end Host

end HeadAudit

import HeadAudit.Text.Ascii
import HeadAudit.Text.Utf8
import HeadAudit.Number.Binary64

namespace HeadAudit.Json

/-- What stops a reader: text that is no JSON, text that ends too early, or a value that is well
formed so far but not the wanted one. -/
inductive Fault where
  | malformed
  | truncated
  | mismatch
  deriving DecidableEq

abbrev Reader := StateT (List UInt8) (Except Fault)

namespace Reader

def quote : UInt8 := 0x22
def backslash : UInt8 := 0x5C
def comma : UInt8 := 0x2C
def colon : UInt8 := 0x3A
def minus : UInt8 := 0x2D
def openArray : UInt8 := 0x5B
def closeArray : UInt8 := 0x5D
def openObject : UInt8 := 0x7B
def closeObject : UInt8 := 0x7D

def isBlank (b : UInt8) : Bool := b == 0x20 || b == 0x0A || b == 0x09 || b == 0x0D

def isDigit (b : UInt8) : Bool := 0x30 ≤ b && b ≤ 0x39

def peek : Reader (Option UInt8) := do
  modify (·.dropWhile isBlank)
  return (← get).head?

def advance : Reader Unit := modify List.tail

def peekByte : Reader UInt8 := do
  match ← peek with
  | some b => return b
  | none => throw .truncated

def byte : Reader UInt8 := do
  match ← get with
  | b :: rest => set rest; return b
  | [] => throw .truncated

def literal : List UInt8 → Reader Unit
  | [] => return
  | b :: bs => do
    if (← byte) == b then literal bs else throw .malformed

def nullTail : List UInt8 := Utf8.encode "ull"
def trueTail : List UInt8 := Utf8.encode "rue"
def falseTail : List UInt8 := Utf8.encode "alse"

def hexUnit : Reader Nat := do
  match ← get with
  | a :: b :: c :: d :: rest =>
    set rest
    let digits := [a, b, c, d].map fun x => Char.ofNat x.toNat
    if digits.all Ascii.isHexDigit then return Ascii.valueIn 16 digits else throw .malformed
  | _ => throw .truncated

/-- A code point written as `\u` and four digits, the marker being read already. A leading
surrogate needs a trailing one right behind it, and a trailing one cannot stand alone. -/
def unicodeEscape : Reader Char := do
  let unit ← hexUnit
  if 0xDC00 ≤ unit ∧ unit ≤ 0xDFFF then throw .malformed
  else if 0xD800 ≤ unit ∧ unit ≤ 0xDBFF then
    if (← byte) != backslash then throw .malformed
    if (← byte) != 0x75 then throw .malformed
    let trail ← hexUnit
    if trail < 0xDC00 ∨ 0xDFFF < trail then throw .malformed
    return Char.ofNat (0x10000 + (unit - 0xD800) * 0x400 + (trail - 0xDC00))
  else return Char.ofNat unit

def shortEscape? (b : UInt8) : Option UInt8 :=
  if b == quote || b == backslash || b == 0x2F then some b
  else if b == 0x62 then some 0x08
  else if b == 0x66 then some 0x0C
  else if b == 0x6E then some 0x0A
  else if b == 0x72 then some 0x0D
  else if b == 0x74 then some 0x09
  else none

def escape : Reader (List UInt8) := do
  let b ← byte
  match shortEscape? b with
  | some c => return [c]
  | none => if b == 0x75 then return String.utf8EncodeChar (← unicodeEscape) else throw .malformed

def stringBytes : Nat → Reader (List UInt8)
  | 0 => throw .truncated
  | fuel + 1 => do
    let b ← byte
    if b == quote then return []
    else if b == backslash then return (← escape) ++ (← stringBytes fuel)
    else if b < 0x20 then throw .malformed
    else return b :: (← stringBytes fuel)

def string : Reader String := do
  match Utf8.decode? (← stringBytes ((← get).length + 1)) with
  | some s => return s
  | none => throw .malformed

def skipStringBytes : Nat → Reader Unit
  | 0 => throw .truncated
  | fuel + 1 => do
    let b ← byte
    if b == quote then return
    else if b == backslash then
      let e ← byte
      -- What is passed over need not denote a character.
      if e == 0x75 then discard hexUnit
      else if (shortEscape? e).isNone then throw .malformed
      skipStringBytes fuel
    else if b < 0x20 then throw .malformed
    else skipStringBytes fuel

def skipString : Reader Unit := do skipStringBytes ((← get).length + 1)

def digits : Reader (List UInt8) := do
  let bytes ← get
  set (bytes.dropWhile isDigit)
  return bytes.takeWhile isDigit

inductive Number where
  | whole (n : Int)
  | real

def wordEnd : Nat := 1 <<< 64

def signedEnd : Nat := 1 <<< 63

/-- Add digits to a significand as long as it stays below 2 ^ 64, and count the rest. -/
def absorb : Nat → List UInt8 → Nat × Nat
  | significand, [] => (significand, 0)
  | significand, d :: ds =>
    let next := significand * 10 + (d.toNat - 0x30)
    if next < wordEnd then absorb next ds else (significand, ds.length + 1)

def exceeds (significand : Nat) (exponent : Int) : Bool :=
  if significand = 0 ∨ exponent < 0 then false
  else if 308 < exponent then true
  else
    let scale : Binary64 := .ofRatio false (Nat.pow 10 exponent.toNat) 1
    ((Binary64.ofRatio false significand 1).mulNonneg scale).isInfinite

/-- A number of which a leading minus is read already. Too large a double is refused; a minus in
front of zero makes a double. -/
def number (negative : Bool) : Reader Number := do
  let first ← byte
  if !isDigit first then throw .malformed
  let more ← if first == 0x30 then pure [] else digits
  if first == 0x30 && ((← get).head?.any isDigit) then throw .malformed
  let (significand, skipped) := absorb 0 (first :: more)
  let hasPoint := (← get).head? == some 0x2E
  if hasPoint then advance
  let fraction ← if hasPoint then digits else pure []
  if hasPoint && fraction.isEmpty then
    throw (if (← get).isEmpty then .truncated else .malformed)
  let (significand, dropped) := absorb significand fraction
  let shift : Int := (skipped : Int) - ((fraction.length - dropped : Nat) : Int)
  let hasExponent := (← get).head? == some 0x65 || (← get).head? == some 0x45
  if hasExponent then
    advance
    let sign := (← get).head?
    if sign == some 0x2B || sign == some minus then advance
    let first ← byte
    if !isDigit first then throw .malformed
    let size : Int := Ascii.valueIn 10 ((first :: (← digits)).map fun x => Char.ofNat x.toNat)
    if exceeds significand (shift + if sign == some minus then -size else size) then
      throw .malformed
    return .real
  else if hasPoint || skipped ≠ 0 then
    if exceeds significand shift then throw .malformed
    return .real
  else if negative then
    return if 0 < significand ∧ significand ≤ signedEnd then .whole (-significand) else .real
  else return .whole significand

/-- Pass over a number of which the first byte is still unread and a minus is not. A number that
lacks digits is malformed, also at the end of the text. -/
def skipNumber : Reader Unit := do
  match ← get with
  | first :: rest =>
    if !isDigit first then throw .malformed
    set rest
    if first == 0x30 then
      if rest.head?.any isDigit then throw .malformed
    else discard digits
    if (← get).head? == some 0x2E then
      advance
      if (← digits).isEmpty then throw .malformed
    if (← get).head? == some 0x65 || (← get).head? == some 0x45 then
      advance
      if (← get).head? == some 0x2B || (← get).head? == some minus then advance
      if (← digits).isEmpty then throw .malformed
  | [] => throw .malformed

mutual

def skip : Nat → Reader Unit
  | 0 => throw .truncated
  | fuel + 1 => do
    let b ← peekByte
    if b == openArray then
      advance
      if (← peekByte) == closeArray then advance else skipItems fuel
    else if b == openObject then
      advance
      if (← peekByte) == closeObject then advance else skipMembers fuel
    else if b == quote then advance; skipString
    else if b == minus then advance; skipNumber
    else if isDigit b then skipNumber
    else if b == 0x6E then advance; literal nullTail
    else if b == 0x74 then advance; literal trueTail
    else if b == 0x66 then advance; literal falseTail
    else throw .malformed

def skipItems : Nat → Reader Unit
  | 0 => throw .truncated
  | fuel + 1 => do
    skip fuel
    let b ← peekByte
    if b == closeArray then advance
    else if b == comma then advance; skipItems fuel
    else throw .malformed

def skipMembers : Nat → Reader Unit
  | 0 => throw .truncated
  | fuel + 1 => do
    if (← peekByte) != quote then throw .malformed
    advance
    skipString
    if (← peekByte) != colon then throw .malformed
    advance
    skip fuel
    let b ← peekByte
    if b == closeObject then advance
    else if b == comma then advance; skipMembers fuel
    else throw .malformed

end

/-- Refuse a value of an unwanted type. A scalar is read to its end before, so that a fault in it
comes first. -/
def refuse {α : Type} : Reader α := do
  let b ← peekByte
  if b == quote then advance; discard string; throw .mismatch
  else if b == minus then advance; discard (number true); throw .mismatch
  else if isDigit b then discard (number false); throw .mismatch
  else if b == 0x6E then advance; literal nullTail; throw .mismatch
  else if b == 0x74 then advance; literal trueTail; throw .mismatch
  else if b == 0x66 then advance; literal falseTail; throw .mismatch
  else if b == openArray || b == openObject then throw .mismatch
  else throw .malformed

def bool : Reader Bool := do
  let b ← peekByte
  if b == 0x74 then advance; literal trueTail; return true
  else if b == 0x66 then advance; literal falseTail; return false
  else refuse

def text : Reader String := do
  if (← peekByte) == quote then advance; string else refuse

def optionalText : Reader (Option String) := do
  if (← peek) == some 0x6E then advance; literal nullTail; return none
  else return some (← text)

def integer : Reader Int := do
  let b ← peekByte
  if b == minus || isDigit b then
    if b == minus then advance
    match ← number (b == minus) with
    | .whole n => if n < signedEnd then return n else throw .mismatch
    | .real => throw .mismatch
  else refuse

structure RecordField (σ : Type) where
  name : String
  present : σ → Bool
  read : σ → Reader σ

variable {σ : Type}

def memberStart (first : Bool) : Reader Unit := do
  if !first then
    if (← peekByte) != comma then throw .malformed
    advance
  if (← peekByte) != quote then throw .malformed
  advance

/-- The members of an object up to its closing brace. A repeated field is refused at its name, and
so is an unknown one if the record is closed; an open record passes over it. -/
def members (fields : List (RecordField σ)) (closed : Bool) : Nat → Bool → σ → Reader σ
  | 0, _, _ => throw .truncated
  | fuel + 1, first, s => do
    if (← peekByte) == closeObject then advance; return s
    memberStart first
    let name ← string
    let field := fields.find? (·.name == name)
    if field.elim closed (·.present s) then throw .mismatch
    if (← peekByte) != colon then throw .malformed
    advance
    match field with
    | some field => members fields closed fuel false (← field.read s)
    | none =>
      skip (2 * (← get).length + 2)
      members fields closed fuel false s

def itemStart (first : Bool) : Reader Unit := do
  if !first then
    if (← peekByte) != comma then throw .malformed
    advance
    if (← peekByte) == closeArray then throw .malformed

/-- The items of an array up to its closing bracket, one for each field and in their order. Items
may be missing at the end, but none may be left over. -/
def items : List (RecordField σ) → Bool → σ → Reader σ
  | [], _, s => do
    if (← peekByte) != closeArray then throw .malformed
    advance
    return s
  | field :: fields, first, s => do
    if (← peekByte) == closeArray then advance; return s
    itemStart first
    items fields false (← field.read s)

def record {α : Type} (fields : List (RecordField σ)) (closed : Bool) (start : σ)
    (finish : σ → Option α) : Reader α := do
  let b ← peekByte
  if b == openObject || b == openArray then
    advance
    let s ← if b == openObject then members fields closed ((← get).length + 1) true start
      else items fields true start
    match finish s with
    | some a => return a
    | none => throw .mismatch
  else refuse

def whole {α : Type} (reader : Reader α) (bytes : List UInt8) : Except Fault α := do
  let (a, rest) ← reader.run bytes
  if (rest.dropWhile isBlank).isEmpty then return a else throw .malformed

end Reader

end HeadAudit.Json

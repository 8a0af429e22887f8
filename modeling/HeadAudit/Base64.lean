namespace HeadAudit.Base64

/-- Why a text is no base64. Offsets count bytes from the start. -/
inductive Fault where
  | symbol (byte : UInt8) (offset : Nat)
  | length (symbols : Nat)
  | lastSymbol (byte : UInt8) (offset : Nat)
  deriving DecidableEq

def Fault.message : Fault → String
  | .symbol byte offset => s!"Invalid symbol {byte.toNat}, offset {offset}."
  | .length symbols => s!"Invalid input length: {symbols}"
  | .lastSymbol byte offset => s!"Invalid last symbol {byte.toNat}, offset {offset}."

def padding : UInt8 := 61

def symbol (n : Nat) : UInt8 :=
  if n < 26 then UInt8.ofNat (65 + n)
  else if n < 52 then UInt8.ofNat (97 + (n - 26))
  else if n < 62 then UInt8.ofNat (48 + (n - 52))
  else if n = 62 then 43
  else 47

def value? (b : UInt8) : Option Nat :=
  if 65 ≤ b && b ≤ 90 then some (b.toNat - 65)
  else if 97 ≤ b && b ≤ 122 then some (b.toNat - 97 + 26)
  else if 48 ≤ b && b ≤ 57 then some (b.toNat - 48 + 52)
  else if b == 43 then some 62
  else if b == 47 then some 63
  else none

def encode : List UInt8 → List UInt8
  | [] => []
  | [a] =>
    let n := a.toNat * 16
    [symbol (n / 64), symbol (n % 64), padding, padding]
  | [a, b] =>
    let n := (a.toNat * 256 + b.toNat) * 4
    [symbol (n / 4096), symbol (n / 64 % 64), symbol (n % 64), padding]
  | a :: b :: c :: rest =>
    let n := (a.toNat * 256 + b.toNat) * 256 + c.toNat
    symbol (n / 262144) :: symbol (n / 4096 % 64) :: symbol (n / 64 % 64) :: symbol (n % 64) ::
      encode rest

def read (offset : Nat) (b : UInt8) : Except Fault Nat :=
  match value? b with
  | some n => .ok n
  | none => .error (.symbol b offset)

/-- The symbols of the last group in front of its padding, each with its byte. Padding may start
at the third place, and only padding may follow it. -/
def lastSymbols (offset : Nat) (group : List UInt8) : Except Fault (List (UInt8 × Nat)) :=
  let data := group.takeWhile (· != padding)
  let rest := group.drop data.length
  do
    let symbols ← data.zipIdx.mapM fun (b, i) => return (b, ← read (offset + i) b)
    if rest.isEmpty then return symbols
    if data.length < 2 then throw (.symbol padding (offset + data.length))
    if rest.any (· != padding) then throw (.symbol padding (offset + data.length))
    return symbols

/-- The bytes of the last group. Bits that no byte takes must be zero. -/
def lastGroup (offset : Nat) (group : List UInt8) : Except Fault (List UInt8) := do
  match ← lastSymbols offset group with
  | [] => if group.isEmpty then return [] else throw (.length offset)
  | [_] => throw (.length (offset + 1))
  | [(_, a), (y, b)] =>
    if b % 16 ≠ 0 then throw (.lastSymbol y (offset + 1))
    return [UInt8.ofNat ((a * 64 + b) / 16)]
  | [(_, a), (_, b), (z, c)] =>
    if c % 4 ≠ 0 then throw (.lastSymbol z (offset + 2))
    let n := ((a * 64 + b) * 64 + c) / 4
    return [UInt8.ofNat (n / 256), UInt8.ofNat (n % 256)]
  | (_, a) :: (_, b) :: (_, c) :: (_, d) :: _ =>
    let n := ((a * 64 + b) * 64 + c) * 64 + d
    return [UInt8.ofNat (n / 65536), UInt8.ofNat (n / 256 % 256), UInt8.ofNat (n % 256)]

def groups (offset : Nat) : List UInt8 → Except Fault (List UInt8)
  | a :: b :: c :: d :: e :: rest => do
    let a ← read offset a
    let b ← read (offset + 1) b
    let c ← read (offset + 2) c
    let d ← read (offset + 3) d
    let n := ((a * 64 + b) * 64 + c) * 64 + d
    let more ← groups (offset + 4) (e :: rest)
    return UInt8.ofNat (n / 65536) :: UInt8.ofNat (n / 256 % 256) :: UInt8.ofNat (n % 256) :: more
  | group => lastGroup offset group

/-- A single symbol left over at the end is looked at first: if it is none at all, that is the
fault, whatever else is wrong. -/
def decode (bytes : List UInt8) : Except Fault (List UInt8) :=
  match bytes.getLast? with
  | some b =>
    if bytes.length % 4 = 1 ∧ value? b = none ∧ b ≠ padding then
      .error (.symbol b (bytes.length - 1))
    else groups 0 bytes
  | none => .ok []

end HeadAudit.Base64

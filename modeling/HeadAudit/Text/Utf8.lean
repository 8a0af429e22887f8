namespace HeadAudit.Utf8

def encode (s : String) : List UInt8 := s.toList.flatMap String.utf8EncodeChar

def tail? (b : UInt8) : Option Nat :=
  if 0x80 ≤ b && b ≤ 0xBF then some (b.toNat - 0x80) else none

def scalar? (low n : Nat) : Option Char :=
  if low ≤ n ∧ n.isValidChar then some (Char.ofNat n) else none

/-- The first character of a byte sequence and the bytes behind it. Overlong forms, surrogates,
values above U+10FFFF and cut-off sequences are refused. -/
def char? : List UInt8 → Option (Char × List UInt8)
  | [] => none
  | a :: rest =>
    if a < 0x80 then some (Char.ofNat a.toNat, rest)
    else if a < 0xC0 then none
    else if a < 0xE0 then
      match rest with
      | b :: rest => do
        let b ← tail? b
        return (← scalar? 0x80 ((a.toNat - 0xC0) * 64 + b), rest)
      | _ => none
    else if a < 0xF0 then
      match rest with
      | b :: c :: rest => do
        let b ← tail? b
        let c ← tail? c
        return (← scalar? 0x800 (((a.toNat - 0xE0) * 64 + b) * 64 + c), rest)
      | _ => none
    else if a < 0xF8 then
      match rest with
      | b :: c :: d :: rest => do
        let b ← tail? b
        let c ← tail? c
        let d ← tail? d
        return (← scalar? 0x10000 ((((a.toNat - 0xF0) * 64 + b) * 64 + c) * 64 + d), rest)
      | _ => none
    else none

/-- Read characters until the bytes run out; every character takes a byte, so the length of the
input bounds their number. -/
def chars? : Nat → List UInt8 → Option (List Char)
  | _, [] => some []
  | 0, _ => none
  | fuel + 1, bytes => do
    let (c, rest) ← char? bytes
    return c :: (← chars? fuel rest)

def decode? (bytes : List UInt8) : Option String :=
  (chars? bytes.length bytes).map String.ofList

end HeadAudit.Utf8

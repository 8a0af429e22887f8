import HeadAudit.Text.Composition.Table
import HeadAudit.Text.Mark

namespace HeadAudit.Composition

def jamo? (n : Nat) : Option (List Nat) :=
  if 0xAC00 ≤ n ∧ n ≤ 0xD7A3 then
    let k := n - 0xAC00
    let tail := if k % 28 = 0 then [] else [0x11A7 + k % 28]
    some ([0x1100 + k / 588, 0x1161 + k % 588 / 28] ++ tail)
  else none

def singleton? (n : Nat) : Option (List Nat) :=
  (singletons.find? (·.1.contains n)).map fun (range, target) => [target + (n - range.first)]

def parts? (n : Nat) : Option (List Nat) :=
  jamo? n <|> singleton? n <|> pairs.lookup n <|> openPairs.lookup n

def takeApart : Nat → Nat → List Nat
  | 0, n => [n]
  | depth + 1, n =>
    match parts? n with
    | some parts => parts.flatMap (takeApart depth)
    | none => [n]

/-- No character is nested deeper than this. -/
def depth : Nat := 4

/-- Put a code point in front of an ordered text: a mark goes behind the marks of lower class. -/
def place (n : Nat) : List Nat → List Nat
  | [] => [n]
  | m :: rest =>
    if 0 < Mark.order m && Mark.order m < Mark.order n then m :: place n rest
    else n :: m :: rest

def ordered (text : List Nat) : List Nat := text.foldr place []

def syllable? (a b : Nat) : Option Nat :=
  if 0x1100 ≤ a ∧ a ≤ 0x1112 ∧ 0x1161 ≤ b ∧ b ≤ 0x1175 then
    some (0xAC00 + (a - 0x1100) * 588 + (b - 0x1161) * 28)
  else if 0xAC00 ≤ a ∧ a ≤ 0xD7A3 ∧ (a - 0xAC00) % 28 = 0 ∧ 0x11A8 ≤ b ∧ b ≤ 0x11C2 then
    some (a + (b - 0x11A7))
  else none

def whole? (a b : Nat) : Option Nat :=
  syllable? a b <|> (pairs.find? (·.2 == [a, b])).map (·.1)

/-- A mark between a letter and a code point that keeps the two apart. -/
def between (passed : List Nat) (n : Nat) : Bool :=
  match passed.head? with
  | some m => Mark.order n ≤ Mark.order m
  | none => false

/-- Put an ordered text together behind a letter. The marks passed so far stay on it; the last one
is in front. -/
def putTogether : Nat → List Nat → List Nat → List Nat
  | letter, passed, [] => letter :: passed.reverse
  | letter, passed, n :: rest =>
    match if between passed n then none else whole? letter n with
    | some whole => putTogether whole passed rest
    | none =>
      if Mark.order n = 0 then letter :: passed.reverse ++ putTogether n [] rest
      else putTogether letter (n :: passed) rest

def plain : Nat := 0x300

def composed (cs : List Char) : List Char :=
  if cs.all (·.toNat < plain) then cs
  else
    match ordered (cs.flatMap fun c => takeApart depth c.toNat) with
    | [] => []
    | n :: rest => (putTogether n [] rest).map Char.ofNat

end HeadAudit.Composition

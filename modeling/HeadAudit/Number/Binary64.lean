namespace HeadAudit

/-- A double: not a number, an infinity, or `± mantissa · 2 ^ exponent`. -/
inductive Binary64 where
  | nan
  | infinite (negative : Bool)
  | finite (negative : Bool) (mantissa : Nat) (exponent : Int)
  deriving DecidableEq

namespace Binary64

/-- `n / d` rounded to the nearest whole number, a tie to the even one. -/
def roundDiv (n d : Nat) : Nat :=
  let q := n / d
  let r := n % d
  if 2 * r < d then q
  else if d < 2 * r then q + 1
  else if q % 2 = 0 then q else q + 1

/-- The exponent of the last of 53 bits of `n / d`, and at least that of the least double. -/
def unit (n d : Nat) : Int :=
  let k : Int := (Nat.log2 n : Int) - (Nat.log2 d : Int)
  let atLeast : Bool :=
    if 0 ≤ k then d <<< k.toNat ≤ n else d ≤ n <<< (-k).toNat
  max ((if atLeast then k else k - 1) - 52) (-1074)

def ofRatio (negative : Bool) (n d : Nat) : Binary64 :=
  if n = 0 then .finite negative 0 0
  else
    let e := unit n d
    let m := if 0 ≤ e then roundDiv n (d <<< e.toNat) else roundDiv (n <<< (-e).toNat) d
    -- The greatest double has all of its 53 bits set and the exponent 971.
    if 971 < e ∨ (e = 971 ∧ 1 <<< 53 ≤ m) then .infinite negative else .finite negative m e

/-- The double nearest to `± digits · 10 ^ exponent`. Magnitudes far outside of the range are
settled by the number of digits alone. -/
def ofDecimal (negative : Bool) (digits : Nat) (exponent : Int) : Binary64 :=
  let places : Int := (toString digits).length + exponent
  if digits = 0 ∨ places < -400 then .finite negative 0 0
  else if 400 < places then .infinite negative
  else if 0 ≤ exponent then ofRatio negative (digits * Nat.pow 10 exponent.toNat) 1
  else ofRatio negative digits (Nat.pow 10 (-exponent).toNat)

def scaled (negative : Bool) (mantissa : Nat) (exponent e : Int) : Int :=
  let n : Int := (mantissa <<< (exponent - e).toNat : Nat)
  if negative then -n else n

def le : Binary64 → Binary64 → Bool
  | .nan, _ => false
  | _, .nan => false
  | .infinite negative, .infinite negative' => negative || !negative'
  | .infinite negative, .finite .. => negative
  | .finite .., .infinite negative => !negative
  | .finite s m e, .finite s' m' e' =>
    let low := min e e'
    scaled s m e low ≤ scaled s' m' e' low

def lt (a b : Binary64) : Bool := le a b && !le b a

def isInfinite : Binary64 → Bool
  | .infinite _ => true
  | _ => false

def ratio : Binary64 → Nat × Nat
  | .finite _ m e => if 0 ≤ e then (m <<< e.toNat, 1) else (m, 1 <<< (-e).toNat)
  | _ => (0, 1)

def mulNonneg (a b : Binary64) : Binary64 :=
  ofRatio false (a.ratio.1 * b.ratio.1) (a.ratio.2 * b.ratio.2)

end Binary64

end HeadAudit

namespace HeadAudit.Punycode

/-- How many values the digit at position `k` may take before another digit has to follow. -/
def threshold (k bias : Nat) : Nat :=
  if k ≤ bias then 1 else if bias + 26 ≤ k then 26 else k - bias

theorem threshold_pos (k bias : Nat) : 1 ≤ threshold k bias := by
  unfold threshold
  split
  · exact Nat.le_refl 1
  · split <;> omega

def settle : Nat → Nat → Nat → Nat
  | 0, delta, k => k + 36 * delta / (delta + 38)
  | fuel + 1, delta, k =>
    if 455 < delta then settle fuel (delta / 35) (k + 36) else k + 36 * delta / (delta + 38)

def adapt (delta count : Nat) (first : Bool) : Nat :=
  let delta := if first then delta / 700 else delta / 2
  settle delta (delta + delta / count) 0

def digit (d : Nat) : Char :=
  if d < 26 then Char.ofNat ('a'.toNat + d) else Char.ofNat ('0'.toNat + (d - 26))

def value? (c : Char) : Option Nat :=
  if 'a' ≤ c && c ≤ 'z' then some (c.toNat - 'a'.toNat)
  else if 'A' ≤ c && c ≤ 'Z' then some (c.toNat - 'A'.toNat)
  else if c.isDigit then some (c.toNat - '0'.toNat + 26)
  else none

/-- A distance as digits of varying base, the least one first. -/
def distance (bias k q : Nat) : List Char :=
  let t := threshold k bias
  if h : q < t then [digit q]
  else digit (t + (q - t) % (36 - t)) :: distance bias (k + 36) ((q - t) / (36 - t))
termination_by q
decreasing_by
  have := threshold_pos k bias
  exact Nat.lt_of_le_of_lt (Nat.div_le_self _ _) (by omega)

/-- Progress of an encoding: output so far, distance, number of characters written, bias. -/
structure Progress where
  output : List Char
  delta : Nat
  written : Nat
  bias : Nat

/-- Walk over the label for one code point: every smaller character adds to the distance, and every
occurrence writes it. -/
def occurrences (basic point : Nat) (label : List Char) (p : Progress) : Progress :=
  label.foldl
    (fun p c =>
      if c.toNat < point then { p with delta := p.delta + 1 }
      else if c.toNat = point then
        { output := p.output ++ distance p.bias 36 p.delta
          delta := 0
          written := p.written + 1
          bias := adapt p.delta (p.written + 1) (p.written == basic) }
      else p) p

def rising (basic : Nat) (label : List Char) : List Nat → Nat → Progress → Progress
  | [], _, p => p
  | point :: points, least, p =>
    let p := { p with delta := p.delta + (point - least) * (p.written + 1) }
    let p := occurrences basic point label p
    rising basic label points (point + 1) { p with delta := p.delta + 1 }

def encode (label : List Char) : List Char :=
  let basic := label.filter (·.toNat < 128)
  let points := ((label.filter (128 ≤ ·.toNat)).map Char.toNat).eraseDups.mergeSort
  let start := if basic.isEmpty then [] else basic ++ ['-']
  (rising basic.length label points 128 ⟨start, 0, basic.length, 72⟩).output

def readDistance (bias : Nat) : Nat → Nat → Nat → List Char → Option (Nat × List Char)
  | _, _, _, [] => none
  | k, weight, i, c :: cs => do
    let d ← value? c
    let t := threshold k bias
    let i := i + d * weight
    if d < t then return (i, cs) else readDistance bias (k + 36) (weight * (36 - t)) i cs

/-- Insert characters until the digits run out; each one takes a digit, so their number bounds the
steps. -/
def insertions : Nat → Nat → Nat → Nat → List Char → List Char → Option (List Char)
  | _, _, _, _, [], out => some out
  | 0, _, _, _, _, _ => none
  | fuel + 1, n, i, bias, digits, out => do
    let (next, rest) ← readDistance bias 36 1 i digits
    let count := out.length + 1
    let point := n + next / count
    let place := next % count
    if !point.isValidChar then none
    insertions fuel point (place + 1) (adapt (next - i) count (i == 0)) rest
      (out.take place ++ Char.ofNat point :: out.drop place)

def decode? (text : List Char) : Option (List Char) :=
  let extended := (text.reverse.takeWhile (· != '-')).reverse
  let basic := text.take (text.length - extended.length - 1)
  if basic.any (128 ≤ ·.toNat) then none
  else insertions extended.length 128 0 72 extended basic

end HeadAudit.Punycode

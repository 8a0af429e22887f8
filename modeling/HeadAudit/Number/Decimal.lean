import HeadAudit.Text.Ascii
import HeadAudit.Number.Binary64

namespace HeadAudit.Decimal

def sign : List Char → Bool × List Char
  | '-' :: cs => (true, cs)
  | '+' :: cs => (false, cs)
  | cs => (false, cs)

def exponent? : List Char → Option Int
  | [] => some 0
  | c :: cs =>
    if c == 'e' || c == 'E' then
      let (negative, digits) := sign cs
      if digits.isEmpty || !digits.all Char.isDigit then none
      else
        let n : Int := Ascii.valueIn 10 digits
        some (if negative then -n else n)
    else none

def magnitude? (negative : Bool) (cs : List Char) : Option Binary64 :=
  let whole := cs.takeWhile Char.isDigit
  let rest := cs.dropWhile Char.isDigit
  let (fraction, rest) :=
    match rest with
    | '.' :: rest => (rest.takeWhile Char.isDigit, rest.dropWhile Char.isDigit)
    | rest => ([], rest)
  if whole.isEmpty && fraction.isEmpty then none
  else (exponent? rest).map fun e =>
    .ofDecimal negative (Ascii.valueIn 10 (whole ++ fraction)) (e - fraction.length)

/-- Read a number: an optional sign, then `inf`, `infinity` or `nan` in any case, or digits with an
optional point and an optional exponent. At least one digit stands beside the point. -/
def read? (s : String) : Option Binary64 :=
  let (negative, cs) := sign s.toList
  let name := Ascii.lower (String.ofList cs)
  if name == "inf" || name == "infinity" then some (.infinite negative)
  else if name == "nan" then some .nan
  else magnitude? negative cs

end HeadAudit.Decimal

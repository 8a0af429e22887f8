import HeadAudit.Text.Numeral

namespace HeadAudit

/-- A day of the proleptic Gregorian calendar; the year before 1 is 0. -/
@[ext]
structure Date where
  year : Int
  month : Nat
  day : Nat
  deriving DecidableEq

/-- The date `days` days after 1970-01-01. Years are counted from the first of March, so that a
leap day is the last of its year. -/
def Date.ofDays (days : Int) : Date :=
  -- An era are 400 years of 146097 days; 1970 begins 719468 days behind the first of March of
  -- year 0.
  let shifted := days + 719468
  let era := shifted.fdiv 146097
  let dayOfEra := (shifted - era * 146097).toNat
  let yearOfEra := (dayOfEra - dayOfEra / 1460 + dayOfEra / 36524 - dayOfEra / 146096) / 365
  let dayOfYear := dayOfEra - (365 * yearOfEra + yearOfEra / 4 - yearOfEra / 100)
  let m := (5 * dayOfYear + 2) / 153
  let month := if m < 10 then m + 3 else m - 9
  { year := (yearOfEra : Int) + era * 400 + (if month ≤ 2 then 1 else 0)
    month
    day := dayOfYear - (153 * m + 2) / 5 + 1 }

namespace Instant

/-- The earliest and the latest instant that has a date. -/
def first : Int := -8334601228800
def last : Int := 8210266876799

def inRange (seconds : Int) : Bool := first ≤ seconds && seconds ≤ last

/-- Years 0 to 9999 have four digits and no sign, all others a sign and at least four digits. -/
def year (y : Int) : String :=
  if 0 ≤ y ∧ y ≤ 9999 then Numeral.padded 4 y.natAbs
  else (if y < 0 then "-" else "+") ++ Numeral.padded 4 y.natAbs

def text (seconds : Int) : String :=
  let date := Date.ofDays (seconds.fdiv 86400)
  let time := (seconds.fmod 86400).toNat
  year date.year ++ "-" ++ Numeral.padded 2 date.month ++ "-" ++ Numeral.padded 2 date.day ++ "T" ++
    Numeral.padded 2 (time / 3600) ++ ":" ++ Numeral.padded 2 (time / 60 % 60) ++ ":" ++
    Numeral.padded 2 (time % 60) ++ "Z"

end Instant

end HeadAudit

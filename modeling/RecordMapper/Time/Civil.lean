/-!
Calendar dates of seconds counted from the start of 1970 in UTC, in the Gregorian calendar extended
in both directions.
-/

set_option autoImplicit false

namespace RecordMapper.Time

/-- The first and last second that have a date: the years from -9999 to 9999, less a margin at both
ends for every offset from UTC. -/
def firstSecond : Int := -377705023201

def lastSecond : Int := 253402207200

structure Date where
  year : Int
  month : Nat
  day : Nat
  deriving DecidableEq, Repr

/-- The date of a day counted from 1970-01-01. Years are taken to begin in March, so that a leap day
is the last day of a year, and are counted in eras of 400 years, which all have 146097 days. -/
def dateOfDay (day : Int) : Date :=
  let shifted := day + 719468
  let era := shifted.fdiv 146097
  let dayOfEra := (shifted.fmod 146097).toNat
  let yearOfEra := (dayOfEra - dayOfEra / 1460 + dayOfEra / 36524 - dayOfEra / 146096) / 365
  let dayOfYear := dayOfEra - (365 * yearOfEra + yearOfEra / 4 - yearOfEra / 100)
  let marchMonth := (5 * dayOfYear + 2) / 153
  let month := if marchMonth < 10 then marchMonth + 3 else marchMonth - 9
  { year := yearOfEra + era * 400 + (if month ≤ 2 then 1 else 0)
    month
    day := dayOfYear - (153 * marchMonth + 2) / 5 + 1 }

/-- A text filled with zeros on the left, after its minus sign, up to `width` characters. -/
def zeroFilled (width : Nat) (n : Int) : String :=
  let sign := if n < 0 then "-" else ""
  let digits := Nat.repr n.natAbs
  sign ++ String.ofList (List.replicate (width - sign.length - digits.length) '0') ++ digits

/-- The moment of a second as `year-month-day hour:minute:second`. -/
def momentText (second : Int) : String :=
  let date := dateOfDay (second.fdiv 86400)
  let ofDay := second.fmod 86400
  zeroFilled 4 date.year ++ "-" ++ zeroFilled 2 date.month ++ "-" ++ zeroFilled 2 date.day ++ " " ++
    zeroFilled 2 (ofDay / 3600) ++ ":" ++ zeroFilled 2 (ofDay / 60 % 60) ++ ":" ++
    zeroFilled 2 (ofDay % 60)

end RecordMapper.Time

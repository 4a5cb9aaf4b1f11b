import Watchpost.Double.Decimal

/-! Instants, and the dates and clock times they are shown as.

An instant is a number of seconds since the start of 1970 and a fraction of the
second after them. A fraction of more than one second stands within a leap second.
Dates are those of the Gregorian calendar, extended in both directions. -/
namespace Watchpost

structure Instant where
  seconds : Int
  nanos : Nat
  deriving DecidableEq

/-- A date, and a time of day in seconds. -/
structure Civil where
  year : Int
  month : Nat
  day : Nat
  secondOfDay : Nat

namespace Instant

def secondsPerDay : Int := 86400

/-! ### Calendar -/

/-- The date of a day counted from the start of 1970. Years are taken to begin in
March, so that a leap day is the last of its year, and 400 years at a time are
alike. -/
def dateOfDay (day : Int) : Int × Nat × Nat :=
  let z := day + 719468
  let era := z.fdiv 146097
  let dayOfEra := (z - era * 146097).toNat
  let yearOfEra := (dayOfEra - dayOfEra / 1460 + dayOfEra / 36524 - dayOfEra / 146096) / 365
  let dayOfYear := dayOfEra - (365 * yearOfEra + yearOfEra / 4 - yearOfEra / 100)
  let shifted := (5 * dayOfYear + 2) / 153
  let dayOfMonth := dayOfYear - (153 * shifted + 2) / 5 + 1
  let month := if shifted < 10 then shifted + 3 else shifted - 9
  (yearOfEra + era * 400 + (if month ≤ 2 then 1 else 0), month, dayOfMonth)

/-- The day of a date, counted from the start of 1970. -/
def dayOfDate (year : Int) (month day : Nat) : Int :=
  let y := if month ≤ 2 then year - 1 else year
  let era := y.fdiv 400
  let yearOfEra := y - era * 400
  let shifted : Int := if 2 < month then month - 3 else month + 9
  let dayOfYear := (153 * shifted + 2).fdiv 5 + day - 1
  era * 146097 + (yearOfEra * 365 + yearOfEra.fdiv 4 - yearOfEra.fdiv 100 + dayOfYear) - 719468

def isLeapYear (year : Int) : Bool := year % 4 = 0 && (year % 100 ≠ 0 || year % 400 = 0)

def daysInMonth (year : Int) (month : Nat) : Nat :=
  match month with
  | 2 => if isLeapYear year then 29 else 28
  | 4 | 6 | 9 | 11 => 30
  | _ => 31

/-! ### Local time -/

def dayAt (offset : Int) (i : Instant) : Int := (i.seconds + offset).fdiv secondsPerDay

def secondOfDayAt (offset : Int) (i : Instant) : Nat :=
  (i.seconds + offset - i.dayAt offset * secondsPerDay).toNat

/-- The hour that clocks show some seconds ahead of universal time. -/
def hourAt (offset : Int) (i : Instant) : Nat := i.secondOfDayAt offset / 3600

/-- The day of the week there; Monday is the first. -/
def weekdayAt (offset : Int) (i : Instant) : Nat := ((i.dayAt offset + 3) % 7).toNat + 1

/-! ### Writing -/

def padded (width n : Nat) : List Char :=
  let ds := Decimal.digitsOf n
  List.replicate (width - ds.length) '0' ++ ds

/-- Years of other than four digits carry a sign. -/
def writeYear (year : Int) : List Char :=
  if 0 ≤ year ∧ year ≤ 9999 then padded 4 year.toNat
  else (if year < 0 then '-' else '+') :: padded 4 year.natAbs

/-- A fraction of a second has as few groups of three digits as it needs. -/
def writeFraction (nanos : Nat) : List Char :=
  if nanos = 0 then []
  else if nanos % 1000000 = 0 then '.' :: padded 3 (nanos / 1000000)
  else if nanos % 1000 = 0 then '.' :: padded 6 (nanos / 1000)
  else '.' :: padded 9 nanos

/-- Date and time in universal time, as in `2026-01-15T03:00:00Z`. Within a leap
second the seconds are one more than their number tells. -/
def write (i : Instant) : String :=
  let (year, month, day) := dateOfDay (i.dayAt 0)
  let s := i.secondOfDayAt 0
  let leap := i.nanos / 1000000000
  String.ofList <|
    writeYear year ++ '-' :: padded 2 month ++ '-' :: padded 2 day ++
      'T' :: padded 2 (s / 3600) ++ ':' :: padded 2 (s / 60 % 60) ++
      ':' :: padded 2 (s % 60 + leap) ++ writeFraction (i.nanos % 1000000000) ++ ['Z']

end Instant
end Watchpost

import ReservationLoad.Calendar.Date

/-!
# Clock readings

A reading of the wall clock, counted in nanoseconds from the start of 1970,
and the ways in which it is shown: as the time stamp of a saved result, as a
part of the name of its file, and as the time stamp of a line of the log.
-/

namespace ReservationLoad.Calendar

/-- A wall-clock reading in nanoseconds since the start of 1970. -/
structure Instant where
  nanoseconds : Nat
deriving DecidableEq

namespace Instant

def seconds (i : Instant) : Nat := i.nanoseconds / 1000000000

def secondOfDay (i : Instant) : Nat := i.seconds % 86400

/-- Year, month and day of the reading.  Days are counted from the first of
March of the year zero, in cycles of 400 years that all have the same
length. -/
def civil (i : Instant) : Nat × Nat × Nat :=
  let day := i.seconds / 86400 + 719468
  let cycle := day / 146097
  let dayOfCycle := day % 146097
  let yearOfCycle :=
    (dayOfCycle - dayOfCycle / 1460 + dayOfCycle / 36524 - dayOfCycle / 146096) / 365
  let dayOfYear := dayOfCycle - (365 * yearOfCycle + yearOfCycle / 4 - yearOfCycle / 100)
  let monthFromMarch := (5 * dayOfYear + 2) / 153
  let dayOfMonth := dayOfYear - (153 * monthFromMarch + 2) / 5 + 1
  let month := if monthFromMarch < 10 then monthFromMarch + 3 else monthFromMarch - 9
  let year := yearOfCycle + cycle * 400 + (if month ≤ 2 then 1 else 0)
  (year, month, dayOfMonth)

/-- The fraction of the second: nothing, or as many groups of three digits as
it needs. -/
def fractionText (i : Instant) : List Char :=
  let rest := i.nanoseconds % 1000000000
  if rest = 0 then []
  else if rest % 1000000 = 0 then '.' :: Decimal.padLeft 3 (Decimal.ofNat (rest / 1000000))
  else if rest % 1000 = 0 then '.' :: Decimal.padLeft 6 (Decimal.ofNat (rest / 1000))
  else '.' :: Decimal.padLeft 9 (Decimal.ofNat rest)

/-- The time stamp of a document: date and time of day with the offset of
universal time. -/
def stamp (i : Instant) : String :=
  let (year, month, day) := i.civil
  let s := i.secondOfDay
  String.ofList (Date.yearText year ++ '-' :: Date.twoDigits month ++ '-' :: Date.twoDigits day ++
    'T' :: Date.twoDigits (s / 3600) ++ ':' :: Date.twoDigits (s / 60 % 60) ++
    ':' :: Date.twoDigits (s % 60) ++ i.fractionText ++ "+00:00".toList)

/-- The time stamp of a line of a log, in microseconds of universal time. -/
def logStamp (i : Instant) : String :=
  let (year, month, day) := i.civil
  let s := i.secondOfDay
  String.ofList (Date.yearText year ++ '-' :: Date.twoDigits month ++ '-' :: Date.twoDigits day ++
    'T' :: Date.twoDigits (s / 3600) ++ ':' :: Date.twoDigits (s / 60 % 60) ++
    ':' :: Date.twoDigits (s % 60) ++
    '.' :: Decimal.padLeft 6 (Decimal.ofNat (i.nanoseconds / 1000 % 1000000)) ++ ['Z'])

/-- The part of a file name that tells one second from another. -/
def fileStamp (i : Instant) : String :=
  let (year, month, day) := i.civil
  let s := i.secondOfDay
  String.ofList (Date.yearText year ++ Date.twoDigits month ++ Date.twoDigits day ++
    '_' :: Date.twoDigits (s / 3600) ++ Date.twoDigits (s / 60 % 60) ++ Date.twoDigits (s % 60))

end Instant

end ReservationLoad.Calendar

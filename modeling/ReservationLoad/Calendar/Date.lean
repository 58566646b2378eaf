import ReservationLoad.Text.Blank
import ReservationLoad.Text.Numeral
import ReservationLoad.Binary64.Text

/-!
# Dates

Days of the proleptic Gregorian calendar, from the first day of the year
-262143 to the last day of the year 262142.  A date is written year, month,
day with hyphens between; a year of more or fewer than four digits' worth
carries its sign.  Reading is a little more generous than writing: white space
may stand in front of each number, and leading zeros may be missing.
-/

namespace ReservationLoad.Calendar

/-- Has the year a 29th of February? -/
def isLeapYear (year : Int) : Bool :=
  year % 4 == 0 && (year % 100 != 0 || year % 400 == 0)

/-- The number of days of a month, `0` for a month that does not exist. -/
def daysInMonth (year : Int) (month : Nat) : Nat :=
  match month with
  | 1 | 3 | 5 | 7 | 8 | 10 | 12 => 31
  | 4 | 6 | 9 | 11 => 30
  | 2 => if isLeapYear year then 29 else 28
  | _ => 0

/-- Do year, month and day name a day of the calendar? -/
def isDay (year : Int) (month day : Nat) : Bool :=
  -262143 ≤ year && year ≤ 262142 && 1 ≤ day && day ≤ daysInMonth year month

/-- A day of the calendar. -/
structure Date where
  year : Int
  month : Nat
  day : Nat
  isDay : isDay year month day = true
deriving DecidableEq

namespace Date

/-- The day of the given year, month and number in the month, if there is
one. -/
def make? (year : Int) (month day : Nat) : Option Date :=
  if isDay : Calendar.isDay year month day = true then
    some ⟨year, month, day, isDay⟩
  else none

instance : Inhabited Date := ⟨⟨1970, 1, 1, by decide⟩⟩

/-- The following day; the last day of the calendar follows itself. -/
def next (date : Date) : Date :=
  let sameMonth := make? date.year date.month (date.day + 1)
  let sameYear := make? date.year (date.month + 1) 1
  let nextYear := make? (date.year + 1) 1 1
  ((sameMonth.or sameYear).or nextYear).getD date

/-- The given number of days in a row, starting with `date`. -/
def run (date : Date) : Nat → List Date
  | 0 => []
  | count + 1 => date :: run date.next count

/-! ## Writing -/

/-- Two digits of a month or a day. -/
def twoDigits (n : Nat) : List Char := Decimal.padLeft 2 (Decimal.ofNat n)

/-- A year: four digits, with a sign in front outside `0 … 9999`. -/
def yearText (year : Int) : List Char :=
  let digits := Decimal.padLeft 4 (Decimal.ofNat year.natAbs)
  if year < 0 then '-' :: digits
  else if 9999 < year then '+' :: digits
  else digits

def toChars (date : Date) : List Char :=
  yearText date.year ++ '-' :: twoDigits date.month ++ '-' :: twoDigits date.day

instance : ToString Date := ⟨fun date => String.ofList date.toChars⟩

/-! ## Reading -/

/-- Why a text is not a date. -/
inductive Fault
  | outOfRange
  | strangeCharacter
  | tooShort
  | tooLong
deriving DecidableEq

namespace Fault

def message : Fault → String
  | outOfRange => "input is out of range"
  | strangeCharacter => "input contains invalid characters"
  | tooShort => "premature end of input"
  | tooLong => "trailing input"

end Fault

/-- Reads up to `width` digits behind `value`; numbers beyond 63 bits are out
of range. -/
def readDigits : (width : Nat) → Nat → List Char → Except Fault (Nat × List Char)
  | 0, value, rest => .ok (value, rest)
  | _ + 1, value, [] => .ok (value, [])
  | width + 1, value, c :: rest =>
    match Text.digitValue? c with
    | none => .ok (value, c :: rest)
    | some digit =>
      if 10 * value + digit < 0x8000000000000000 then readDigits width (10 * value + digit) rest
      else .error .outOfRange

/-- Reads a number of one to `width` digits. -/
def readNumber (width : Nat) : List Char → Except Fault (Nat × List Char)
  | [] => .error .tooShort
  | c :: rest =>
    if (Text.digitValue? c).isSome then readDigits width 0 (c :: rest)
    else .error .strangeCharacter

/-- Reads a year: four digits at most, or any number of them behind a
sign. -/
def readYear (text : List Char) : Except Fault (Int × List Char) := do
  let (year, rest) ←
    match text.dropWhile Text.isBlank with
    | '-' :: digits => do
      let (n, rest) ← readNumber digits.length digits
      pure (-(n : Int), rest)
    | '+' :: digits => do
      let (n, rest) ← readNumber digits.length digits
      pure ((n : Int), rest)
    | digits => do
      let (n, rest) ← readNumber 4 digits
      pure ((n : Int), rest)
  if -0x80000000 ≤ year ∧ year < 0x80000000 then pure (year, rest) else throw .outOfRange

/-- Reads a month or a day between one and `last`. -/
def readPart (last : Nat) (text : List Char) : Except Fault (Nat × List Char) := do
  let (n, rest) ← readNumber 2 (text.dropWhile Text.isBlank)
  if 1 ≤ n ∧ n ≤ last then pure (n, rest) else throw .outOfRange

/-- Reads the hyphen between two numbers. -/
def readHyphen (text : List Char) : Except Fault (List Char) :=
  match text.dropWhile Text.isBlank with
  | [] => .error .tooShort
  | '-' :: rest => .ok rest
  | _ :: _ => .error .strangeCharacter

/-- Reads a date that makes up the whole text. -/
def read (text : List Char) : Except Fault Date := do
  let (year, rest) ← readYear text
  let rest ← readHyphen rest
  let (month, rest) ← readPart 12 rest
  let rest ← readHyphen rest
  let (day, rest) ← readPart 31 rest
  if rest.dropWhile Text.isBlank ≠ [] then throw .tooLong
  match make? year month day with
  | some date => pure date
  | none => throw .outOfRange

end Date

end ReservationLoad.Calendar

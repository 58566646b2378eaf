/-!
# Numerals

Whole numbers as they are written in an environment variable or behind a
command-line option: an optional sign and decimal digits.  A numeral is
refused at the first character that makes it unfit, reading from the left.
-/

namespace ReservationLoad.Text

/-- Why a text is not a numeral of the wanted size. -/
inductive NumeralFault
  | empty
  | strangeCharacter
  | tooLarge
  | tooSmall
deriving DecidableEq

namespace NumeralFault

def message : NumeralFault → String
  | empty => "cannot parse integer from empty string"
  | strangeCharacter => "invalid digit found in string"
  | tooLarge => "number too large to fit in target type"
  | tooSmall => "number too small to fit in target type"

end NumeralFault

/-- The value of a decimal digit. -/
def digitValue? (c : Char) : Option Nat :=
  if '0' ≤ c ∧ c ≤ '9' then some (c.toNat - '0'.toNat) else none

/-- Reads digits behind `value` as long as the number stays below `limit`;
`fault` is reported when it does not. -/
def readDigits (limit : Nat) (fault : NumeralFault) :
    Nat → List Char → Except NumeralFault Nat
  | value, [] => .ok value
  | value, c :: rest =>
    match digitValue? c with
    | none => .error .strangeCharacter
    | some digit =>
      let next := 10 * value + digit
      if next < limit then readDigits limit fault next rest else .error fault

/-- An unsigned numeral below `limit`; a plus sign may stand in front. -/
def readUnsigned (limit : Nat) : List Char → Except NumeralFault Nat
  | [] => .error .empty
  | ['+'] => .error .strangeCharacter
  | '+' :: digits => readDigits limit .tooLarge 0 digits
  | digits => readDigits limit .tooLarge 0 digits

/-- A signed numeral of at most `limit` above zero and `limit + 1` below
it. -/
def readSigned (limit : Nat) : List Char → Except NumeralFault Int
  | [] => .error .empty
  | ['+'] => .error .strangeCharacter
  | ['-'] => .error .strangeCharacter
  | '+' :: digits => (readDigits (limit + 1) .tooLarge 0 digits).map Int.ofNat
  | '-' :: digits =>
    (readDigits (limit + 2) .tooSmall 0 digits).map fun n => -(n : Int)
  | digits => (readDigits (limit + 1) .tooLarge 0 digits).map Int.ofNat

/-- An unsigned numeral of 64 bits. -/
def readWord (text : List Char) : Except NumeralFault UInt64 :=
  (readUnsigned UInt64.size text).map UInt64.ofNat

end ReservationLoad.Text

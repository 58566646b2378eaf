import ReservationLoad.Binary64.Digits

/-!
# Texts of doubles

Three texts of a double are in use: the two-place text of a report, the
plain decimal that quotes a configuration value, and the number token of a
JSON document.
-/

namespace ReservationLoad

namespace Decimal

/-- The decimal digits of a whole number. -/
def ofNat (n : Nat) : List Char := Nat.toDigits 10 n

/-- Zeros put in front until the digits have the given width. -/
def padLeft (width : Nat) (digits : List Char) : List Char :=
  List.replicate (width - digits.length) '0' ++ digits

end Decimal

namespace Binary64

/-- The sign of a double that is not a NaN, as it stands in front of the
digits. -/
def signText (x : Binary64) : List Char := if x.isNegative then ['-'] else []

/-- A whole number of hundredths, written with its point. -/
def hundredthsText (hundredths : Nat) : List Char :=
  Decimal.ofNat (hundredths / 100) ++ '.' ::
    Decimal.padLeft 2 (Decimal.ofNat (hundredths % 100))

/-- Two places after the point, never an exponent; a negative value keeps
its sign even where it rounds to zero. -/
def twoPlaces (x : Binary64) : String :=
  if x.isNaN then "NaN"
  else if x.isInfinite then String.ofList (x.signText ++ "inf".toList)
  else String.ofList (x.signText ++ hundredthsText (x.roundToPlaces 2))

/-- Digits written positionally, with `.0` behind a whole number. -/
def DecimalDigits.positional (d : DecimalDigits) : List Char :=
  let digits := Decimal.ofNat d.digits
  let point : Int := digits.length + d.exponent
  if 0 ≤ d.exponent then
    digits ++ List.replicate d.exponent.toNat '0' ++ ['.', '0']
  else if 0 < point then
    digits.take point.toNat ++ '.' :: digits.drop point.toNat
  else
    '0' :: '.' :: (List.replicate (-point).toNat '0' ++ digits)

/-- Digits written with an exponent behind the first digit. -/
def DecimalDigits.scientific (d : DecimalDigits) : List Char :=
  let digits := Decimal.ofNat d.digits
  let exponent : Int := digits.length + d.exponent - 1
  let head :=
    match digits with
    | first :: second :: more => first :: '.' :: second :: more
    | short => short
  let mark := if exponent < 0 then ['e', '-'] else ['e', '+']
  head ++ mark ++ Decimal.ofNat exponent.natAbs

/-- The plain decimal of a double: the shortest digits that read back,
without exponent and with `.0` behind a whole number. -/
def plainText (x : Binary64) : String :=
  if x.isNaN then "NaN"
  else if x.isInfinite then String.ofList (x.signText ++ "inf".toList)
  else String.ofList (x.signText ++ x.shortest.positional)

/-- The number token of a finite double: positional while the decimal
exponent is between -5 and 15, scientific beyond. -/
def tokenText (x : Binary64) : String :=
  let d := x.shortest
  let exponent : Int := (Decimal.ofNat d.digits).length + d.exponent - 1
  let body := if -5 ≤ exponent ∧ exponent ≤ 15 then d.positional else d.scientific
  String.ofList (x.signText ++ body)

end Binary64

end ReservationLoad

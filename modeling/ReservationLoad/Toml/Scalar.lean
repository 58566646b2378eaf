import ReservationLoad.Binary64.Decimal
import ReservationLoad.Calendar.Date
import ReservationLoad.Text.Numeral
import ReservationLoad.Toml.Table
import ReservationLoad.Toml.Text

/-!
# Scalars of a TOML document

Truth values, whole numbers, fractions and moments.  A group of digits may
hold single underscores between its digits.
-/

namespace ReservationLoad.Toml

/-- A decimal digit. -/
def isDigit (c : Char) : Bool := (Text.digitValue? c).isSome

/-- Reads the given characters. -/
def readExactly (wanted : List Char) (input : List Char) : Option (List Char) :=
  if wanted.isPrefixOf input then some (input.drop wanted.length) else none

/-- Reads a sign; without one the number is positive. -/
def readSign : List Char → Bool × List Char
  | '-' :: rest => (true, rest)
  | '+' :: rest => (false, rest)
  | rest => (false, rest)

/-! ## Digits -/

/-- Reads further digits, each of which may have an underscore in front. -/
def moreDigits (digit? : Char → Option Nat) : List Char → Option (List Nat × List Char)
  | '_' :: c :: rest =>
    match digit? c with
    | some d => (moreDigits digit? rest).map fun (ds, rest) => (d :: ds, rest)
    | none => none
  | ['_'] => none
  | c :: rest =>
    match digit? c with
    | some d => (moreDigits digit? rest).map fun (ds, rest) => (d :: ds, rest)
    | none => some ([], c :: rest)
  | [] => some ([], [])

/-- Reads one digit or more. -/
def readDigits (digit? : Char → Option Nat) : List Char → Option (List Nat × List Char)
  | [] => none
  | c :: rest =>
    match digit? c with
    | some d => (moreDigits digit? rest).map fun (ds, rest) => (d :: ds, rest)
    | none => none

/-- The number that digits stand for. -/
def valueOf (base : Nat) (digits : List Nat) : Nat := digits.foldl (fun n d => base * n + d) 0

/-- A digit of a smaller or larger base. -/
def digitBelow (base : Nat) (c : Char) : Option Nat :=
  (Json.hexValue? c).filter (· < base)

/-- Reads the digits in front of a point: a zero stands alone. -/
def readWhole : List Char → Option (List Nat × List Char)
  | '0' :: rest => some ([0], rest)
  | rest => readDigits Text.digitValue? rest

/-! ## Numbers -/

/-- A whole number of 64 bits with its sign. -/
def wholeOf (negative : Bool) (value : Nat) : Option Scalar :=
  if negative then if value ≤ 0x8000000000000000 then some (.whole (-(value : Int))) else none
  else if value < 0x8000000000000000 then some (.whole value) else none

/-- A fraction with its sign.  Above the doubles there is none, while below
them there is negative infinity. -/
def fractionOf (negative : Bool) (digits : List Nat) (exponent : Int) : Option Scalar :=
  let size := Binary64.ofDecimal (valueOf 10 digits) exponent
  if negative then some (.fraction size.negate)
  else if size.isInfinite then none
  else some (.fraction size)

/-- Reads an exponent behind its mark. -/
def readExponent (input : List Char) : Option (Int × List Char) := do
  let (negative, rest) := readSign input
  let (digits, rest) ← readDigits Text.digitValue? rest
  let size : Int := valueOf 10 digits
  pure (if negative then -size else size, rest)

/-- Reads the exponent of a fraction, if there is one. -/
def readScale : List Char → Option (Int × List Char)
  | 'e' :: rest => readExponent rest
  | 'E' :: rest => readExponent rest
  | rest => some (0, rest)

/-- Reads a decimal number: with a point or an exponent it is a fraction. -/
def readDecimal (input : List Char) : Option (Scalar × List Char) := do
  let (negative, rest) := readSign input
  let (digits, rest) ← readWhole rest
  match rest with
  | '.' :: rest =>
    let (places, rest) ← readDigits Text.digitValue? rest
    let (exponent, rest) ← readScale rest
    let scalar ← fractionOf negative (digits ++ places) (exponent - places.length)
    pure (scalar, rest)
  | c :: _ =>
    if c = 'e' ∨ c = 'E' then
      let (exponent, rest) ← readScale rest
      let scalar ← fractionOf negative digits exponent
      pure (scalar, rest)
    else
      let scalar ← wholeOf negative (valueOf 10 digits)
      pure (scalar, rest)
  | [] =>
    let scalar ← wholeOf negative (valueOf 10 digits)
    pure (scalar, rest)

/-- Reads a whole number of another base, behind its mark. -/
def readBased (base : Nat) (input : List Char) : Option (Scalar × List Char) := do
  let (digits, rest) ← readDigits (digitBelow base) input
  let scalar ← wholeOf false (valueOf base digits)
  pure (scalar, rest)

/-- Reads infinity or a NaN, which may have a sign. -/
def readSpecial (input : List Char) : Option (Scalar × List Char) :=
  let (negative, rest) := readSign input
  let signed := fun (x : Binary64) => Scalar.fraction (if negative then x.negate else x)
  match rest with
  | 'i' :: 'n' :: 'f' :: rest => some (signed .infinity, rest)
  | 'n' :: 'a' :: 'n' :: rest => some (signed .notANumber, rest)
  | _ => none

/-! ## Moments -/

/-- Reads a number of exactly `width` digits between two bounds. -/
def readPart (width low high : Nat) (input : List Char) : Option (Nat × List Char) :=
  let digits := (input.take width).filterMap Text.digitValue?
  let value := valueOf 10 digits
  if digits.length = width ∧ low ≤ value ∧ value ≤ high then some (value, input.drop width)
  else none

/-- Reads a date: a year of four digits, a month and a day. -/
def readDate (input : List Char) : Option (List Char) := do
  let (year, rest) ← readPart 4 0 9999 input
  let rest ← readExactly ['-'] rest
  let (month, rest) ← readPart 2 1 12 rest
  let rest ← readExactly ['-'] rest
  let (_, rest) ← readPart 2 1 (Calendar.daysInMonth year month) rest
  pure rest

/-- Reads a time of day with its seconds, which may have decimal places. -/
def readTime (input : List Char) : Option (List Char) := do
  let (_, rest) ← readPart 2 0 23 input
  let rest ← readExactly [':'] rest
  let (_, rest) ← readPart 2 0 59 rest
  let rest ← readExactly [':'] rest
  let (_, rest) ← readPart 2 0 60 rest
  match rest with
  | '.' :: c :: places => if isDigit c then pure (places.dropWhile isDigit) else pure rest
  | rest => pure rest

/-- Reads the distance from universal time, if one is given. -/
def readOffset : List Char → Option (List Char)
  | 'Z' :: rest => some rest
  | 'z' :: rest => some rest
  | c :: rest =>
    if c = '+' ∨ c = '-' then do
      let (_, rest) ← readPart 2 0 23 rest
      let rest ← readExactly [':'] rest
      let (_, rest) ← readPart 2 0 59 rest
      pure rest
    else some (c :: rest)
  | [] => some []

/-- Reads a moment: a date, a time of day, or both. -/
def readMoment (input : List Char) : Option (List Char) :=
  match readDate input with
  | none => readTime input
  | some rest =>
    match rest with
    | c :: behind =>
      if c = 'T' ∨ c = 't' then
        match readTime behind with
        | some rest => readOffset rest
        | none => some rest
      else if c = ' ' then
        match readTime behind with
        | some rest => readOffset rest
        | none => some rest
      else some rest
    | [] => some []

/-! ## Any scalar -/

/-- Does a moment start here?  Its year or its hour shows at once. -/
def startsMoment : List Char → Bool
  | a :: b :: ':' :: _ => isDigit a && isDigit b
  | a :: b :: c :: d :: '-' :: _ => isDigit a && isDigit b && isDigit c && isDigit d
  | _ => false

/-- Reads a scalar. -/
def readScalar (input : List Char) : Option (Scalar × List Char) :=
  match input with
  | '"' :: _ => (readText input).map fun (text, rest) => (.text text, rest)
  | '\'' :: _ => (readText input).map fun (text, rest) => (.text text, rest)
  | 't' :: _ => (readExactly "true".toList input).map fun rest => (.flag true, rest)
  | 'f' :: _ => (readExactly "false".toList input).map fun rest => (.flag false, rest)
  | '0' :: 'x' :: rest => readBased 16 rest
  | '0' :: 'o' :: rest => readBased 8 rest
  | '0' :: 'b' :: rest => readBased 2 rest
  | _ =>
    if startsMoment input then (readMoment input).map fun rest => (.moment, rest)
    else
      match readSpecial input with
      | some reading => some reading
      | none => readDecimal input

end ReservationLoad.Toml

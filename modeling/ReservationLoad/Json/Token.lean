import ReservationLoad.Text.Numeral
import ReservationLoad.Wire.Mismatch

/-!
# Tokens of JSON

The reader of JSON works from left to right and stops at the first fault.  A
fault says whether the text ended too early, is not JSON, or is JSON that
does not fit.  This module reads what stands between the brackets: words,
strings and numbers.

Numbers are read in two parts.  The digits are gathered into a 64-bit
significand as long as they fit; the digits behind that only count towards
the exponent.  A significand with an exponent is then scaled by one
floating-point multiplication or division with a power of ten.
-/

namespace ReservationLoad.Json

/-- Why a text could not be read. -/
inductive Fault
  | misfit (cause : Wire.Mismatch)
  | malformed
  | ended

/-- The white space of JSON. -/
def isBlank (c : Char) : Bool := c = ' ' || c = '\n' || c = '\t' || c = '\r'

/-- The text from its first character that is not white space. -/
def skipBlank (input : List Char) : List Char := input.dropWhile isBlank

/-- Reads the given characters. -/
def readWord : List Char → List Char → Except Fault (List Char)
  | [], input => .ok input
  | _ :: _, [] => .error .ended
  | wanted :: more, c :: rest => if c = wanted then readWord more rest else .error .malformed

/-! ## Strings -/

/-- The value of a hexadecimal digit. -/
def hexValue? (c : Char) : Option Nat :=
  if '0' ≤ c ∧ c ≤ '9' then some (c.toNat - '0'.toNat)
  else if 'a' ≤ c ∧ c ≤ 'f' then some (c.toNat - 'a'.toNat + 10)
  else if 'A' ≤ c ∧ c ≤ 'F' then some (c.toNat - 'A'.toNat + 10)
  else none

/-- The value of four hexadecimal digits. -/
def hexQuad? (a b c d : Char) : Option Nat := do
  let a ← hexValue? a
  let b ← hexValue? b
  let c ← hexValue? c
  let d ← hexValue? d
  pure (((a * 16 + b) * 16 + c) * 16 + d)

/-- The character of a simple escape. -/
def simpleEscape? (c : Char) : Option Char :=
  if c = '"' ∨ c = '\\' ∨ c = '/' then some c
  else if c = 'b' then some (Char.ofNat 0x8)
  else if c = 'f' then some (Char.ofNat 0xC)
  else if c = 'n' then some '\n'
  else if c = 'r' then some '\r'
  else if c = 't' then some '\t'
  else none

/-- The fault of a four-digit escape that cannot be read: the text has ended
when it holds fewer than four bytes more. -/
def quadFault (input : List Char) : Fault :=
  if ((input.take 4).map fun c => c.utf8Size).foldr (· + ·) 0 < 4 then .ended else .malformed

/-- The character of a pair of surrogates. -/
def surrogatePair (high low : Nat) : Char :=
  Char.ofNat (0x10000 + (high - 0xD800) * 0x400 + (low - 0xDC00))

/-- Reads the inside of a string and its closing quote. -/
def readText : List Char → Except Fault (List Char × List Char)
  | [] => .error .ended
  | '"' :: rest => .ok ([], rest)
  | '\\' :: 'u' :: a :: b :: c :: d :: rest =>
    match hexQuad? a b c d with
    | none => .error (quadFault (a :: b :: c :: d :: rest))
    | some code =>
      if 0xDC00 ≤ code ∧ code ≤ 0xDFFF then .error .malformed
      else if code < 0xD800 ∨ 0xDBFF < code then do
        let (text, rest) ← readText rest
        pure (Char.ofNat code :: text, rest)
      else
        match rest with
        | '\\' :: 'u' :: e :: f :: g :: h :: rest =>
          match hexQuad? e f g h with
          | none => .error (quadFault (e :: f :: g :: h :: rest))
          | some low =>
            if 0xDC00 ≤ low ∧ low ≤ 0xDFFF then do
              let (text, rest) ← readText rest
              pure (surrogatePair code low :: text, rest)
            else .error .malformed
        | '\\' :: 'u' :: short => .error (quadFault short)
        | [] => .error .ended
        | ['\\'] => .error .ended
        | _ => .error .malformed
  | '\\' :: 'u' :: short => .error (quadFault short)
  | ['\\'] => .error .ended
  | '\\' :: c :: rest =>
    match simpleEscape? c with
    | some escaped => do
      let (text, rest) ← readText rest
      pure (escaped :: text, rest)
    | none => .error .malformed
  | c :: rest =>
    if c.toNat < 0x20 then .error .malformed
    else do
      let (text, rest) ← readText rest
      pure (c :: text, rest)

/-- Passes over the inside of a string and its closing quote.  A string that
is passed over may hold lone surrogates. -/
def skipText : List Char → Except Fault (List Char)
  | [] => .error .ended
  | '"' :: rest => .ok rest
  | '\\' :: 'u' :: a :: b :: c :: d :: rest =>
    match hexQuad? a b c d with
    | none => .error (quadFault (a :: b :: c :: d :: rest))
    | some _ => skipText rest
  | '\\' :: 'u' :: short => .error (quadFault short)
  | ['\\'] => .error .ended
  | '\\' :: c :: rest =>
    match simpleEscape? c with
    | some _ => skipText rest
    | none => .error .malformed
  | c :: rest => if c.toNat < 0x20 then .error .malformed else skipText rest

/-! ## Numbers -/

/-- A number as it was read. -/
inductive Number
  | natural (value : UInt64)
  | negative (value : Int)
  | fraction (value : Binary64)

def isDigit (c : Char) : Bool := (Text.digitValue? c).isSome

/-- Gathers digits behind `significand` while the result fits in 64 bits. -/
def takeDigits : Nat → List Char → Nat × List Char
  | significand, [] => (significand, [])
  | significand, c :: rest =>
    match Text.digitValue? c with
    | none => (significand, c :: rest)
    | some digit =>
      if 10 * significand + digit < UInt64.size then takeDigits (10 * significand + digit) rest
      else (significand, c :: rest)

/-- The double nearest to a power of ten up to `10 ^ 308`. -/
def powerOfTen (exponent : Nat) : Binary64 :=
  .ofFloat (Float.ofScientific 1 false exponent)

/-- Scales down in steps of `10 ^ 308`, at most `fuel` of them, before the
last division.  Three steps turn every significand into zero. -/
def scaleDown : Nat → Binary64 → Nat → Binary64
  | 0, value, _ => value
  | fuel + 1, value, exponent =>
    if exponent ≤ 308 then value / powerOfTen exponent
    else scaleDown fuel (value / powerOfTen 308) (exponent - 308)

/-- A significand times a power of ten; nothing when it is too large for a
double. -/
def scale? (significand : Nat) (exponent : Int) : Option Binary64 :=
  let value := Binary64.ofWord (UInt64.ofNat significand)
  if exponent < 0 then some (scaleDown 4 value (-exponent).toNat)
  else if 308 < exponent then if significand = 0 then some value else none
  else
    let scaled := value * powerOfTen exponent.toNat
    if scaled.isInfinite then none else some scaled

/-- The fraction with the given sign, significand and exponent. -/
def fractionOf (positive : Bool) (significand : Nat) (exponent : Int) (rest : List Char) :
    Except Fault (Number × List Char) :=
  match scale? significand exponent with
  | none => .error .malformed
  | some value => .ok (.fraction (if positive then value else value.negate), rest)

/-- The greatest exponent that is read as a number. -/
def exponentLimit : Nat := 0x80000000

/-- Gathers the digits of an exponent; nothing when they exceed the limit. -/
def takeExponent : Nat → List Char → Option Nat × List Char
  | value, [] => (some value, [])
  | value, c :: rest =>
    match Text.digitValue? c with
    | none => (some value, c :: rest)
    | some digit =>
      if 10 * value + digit < exponentLimit then takeExponent (10 * value + digit) rest
      else (none, rest.dropWhile isDigit)

/-- An exponent within the 32-bit numbers. -/
def clampExponent (exponent : Int) : Int :=
  max (-(exponentLimit : Int)) (min ((exponentLimit : Int) - 1) exponent)

/-- Reads an exponent behind its mark. -/
def readExponent (positive : Bool) (significand : Nat) (exponent : Int) (input : List Char) :
    Except Fault (Number × List Char) :=
  let (negative, digits) :=
    match input with
    | '+' :: rest => (false, rest)
    | '-' :: rest => (true, rest)
    | rest => (false, rest)
  match digits with
  | [] => .error .ended
  | c :: _ =>
    if !isDigit c then .error .malformed
    else
      match takeExponent 0 digits with
      | (some written, rest) =>
        let total := if negative then exponent - written else exponent + written
        fractionOf positive significand (clampExponent total) rest
      | (none, rest) =>
        if significand ≠ 0 ∧ !negative then .error .malformed
        else .ok (.fraction (if positive then Binary64.zero else Binary64.negativeZero), rest)

/-- Reads what follows the digits of a fraction. -/
def readTail (positive : Bool) (significand : Nat) (exponent : Int) :
    List Char → Except Fault (Number × List Char)
  | 'e' :: rest => readExponent positive significand exponent rest
  | 'E' :: rest => readExponent positive significand exponent rest
  | rest => fractionOf positive significand exponent rest

/-- Reads the digits behind a point. -/
def readFraction (positive : Bool) (significand : Nat) (exponent : Int) (input : List Char) :
    Except Fault (Number × List Char) :=
  let (gathered, rest) := takeDigits significand input
  let places := input.length - rest.length
  let beyond := rest.dropWhile isDigit
  if places = 0 ∧ beyond.length = rest.length then
    .error (if rest = [] then .ended else .malformed)
  else readTail positive gathered (exponent - places) beyond

/-- The whole number with the given sign; a negative zero is a fraction, and
so is a number below the signed 64-bit numbers. -/
def wholeNumber (positive : Bool) (significand : Nat) : Number :=
  if positive then .natural (UInt64.ofNat significand)
  else if significand = 0 ∨ 0x8000000000000000 < significand then
    .fraction (Binary64.ofWord (UInt64.ofNat significand)).negate
  else .negative (-(significand : Int))

/-- Reads the digits of a number, whose sign is already known. -/
def readDigits (positive : Bool) : List Char → Except Fault (Number × List Char)
  | [] => .error .ended
  | c :: rest =>
    match Text.digitValue? c with
    | none => .error .malformed
    | some digit =>
      if digit = 0 ∧ (rest.head?.any isDigit) then .error .malformed
      else
        let (significand, rest) := takeDigits digit rest
        let beyond := rest.dropWhile isDigit
        let exponent : Int := rest.length - beyond.length
        match beyond with
        | '.' :: rest => readFraction positive significand exponent rest
        | 'e' :: rest => readExponent positive significand exponent rest
        | 'E' :: rest => readExponent positive significand exponent rest
        | _ =>
          if exponent = 0 then .ok (wholeNumber positive significand, beyond)
          else fractionOf positive significand exponent beyond

/-- Reads a number, if the text starts with one. -/
def readNumber? : List Char → Option (Except Fault (Number × List Char))
  | '-' :: rest => some (readDigits false rest)
  | c :: rest => if isDigit c then some (readDigits true (c :: rest)) else none
  | [] => none

/-- Passes over a number, whose sign has been passed already. -/
def skipNumber (input : List Char) : Except Fault (List Char) := do
  let rest ←
    match input with
    | '0' :: rest => if rest.head?.any isDigit then throw .malformed else pure rest
    | c :: rest => if isDigit c then pure (rest.dropWhile isDigit) else throw .malformed
    | [] => throw .malformed
  let rest ←
    match rest with
    | '.' :: fraction =>
      if fraction.head?.any isDigit then pure (fraction.dropWhile isDigit) else throw .malformed
    | _ => pure rest
  let exponent :=
    match rest with
    | 'e' :: more => some more
    | 'E' :: more => some more
    | _ => none
  match exponent with
  | none => pure rest
  | some more =>
    let digits :=
      match more with
      | '+' :: digits => digits
      | '-' :: digits => digits
      | digits => digits
    if digits.head?.any isDigit then pure (digits.dropWhile isDigit) else throw .malformed

end ReservationLoad.Json

import ReservationLoad.Binary64.Text
import ReservationLoad.Wire.Shape

/-!
# Writing JSON

A JSON value is written in one of two layouts: compact, with nothing between
its tokens, or pretty, with one member to a line and two blanks of
indentation for each level.  Members keep their order.
-/

namespace ReservationLoad.Json

/-- A JSON value.  A number is kept as its token. -/
inductive Value
  | null
  | flag (value : Bool)
  | number (token : String)
  | text (value : String)
  | list (items : List Value)
  | object (members : List (String × Value))

/-! ## Texts -/

/-- One character inside a JSON string: quotes, backslashes and control
characters are escaped, all else stands for itself. -/
def escapedChar (c : Char) : List Char :=
  if c = '"' then ['\\', '"']
  else if c = '\\' then ['\\', '\\']
  else if c = '\n' then ['\\', 'n']
  else if c = '\r' then ['\\', 'r']
  else if c = '\t' then ['\\', 't']
  else if c.toNat = 0x8 then ['\\', 'b']
  else if c.toNat = 0xC then ['\\', 'f']
  else if c.toNat < 0x20 then
    '\\' :: 'u' :: Decimal.padLeft 4 (Nat.toDigits 16 c.toNat)
  else [c]

/-- A JSON string. -/
def quote (text : String) : List Char :=
  '"' :: (text.toList.flatMap escapedChar ++ ['"'])

namespace Value

mutual

/-- The compact layout. -/
def compactChars : Value → List Char
  | null => "null".toList
  | flag true => "true".toList
  | flag false => "false".toList
  | number token => token.toList
  | text value => quote value
  | list items => '[' :: (compactItems items ++ [']'])
  | object members => '{' :: (compactMembers members ++ ['}'])

def compactItems : List Value → List Char
  | [] => []
  | [item] => compactChars item
  | item :: more => compactChars item ++ ',' :: compactItems more

def compactMembers : List (String × Value) → List Char
  | [] => []
  | [(name, value)] => quote name ++ ':' :: compactChars value
  | (name, value) :: more =>
    quote name ++ ':' :: (compactChars value ++ ',' :: compactMembers more)

end

def compact (value : Value) : String := String.ofList value.compactChars

/-- A line break and the indentation of a level. -/
def lineBreak (level : Nat) : List Char := '\n' :: List.replicate (2 * level) ' '

mutual

/-- The pretty layout at a level of indentation. -/
def prettyChars (level : Nat) : Value → List Char
  | null => "null".toList
  | flag true => "true".toList
  | flag false => "false".toList
  | number token => token.toList
  | text value => quote value
  | list [] => ['[', ']']
  | list (item :: more) =>
    '[' :: (lineBreak (level + 1) ++ prettyItems (level + 1) (item :: more) ++
      lineBreak level ++ [']'])
  | object [] => ['{', '}']
  | object (member :: more) =>
    '{' :: (lineBreak (level + 1) ++ prettyMembers (level + 1) (member :: more) ++
      lineBreak level ++ ['}'])

def prettyItems (level : Nat) : List Value → List Char
  | [] => []
  | [item] => prettyChars level item
  | item :: more =>
    prettyChars level item ++ ',' :: (lineBreak level ++ prettyItems level more)

def prettyMembers (level : Nat) : List (String × Value) → List Char
  | [] => []
  | [(name, value)] => quote name ++ ':' :: ' ' :: prettyChars level value
  | (name, value) :: more =>
    quote name ++ ':' :: ' ' :: (prettyChars level value ++
      ',' :: (lineBreak level ++ prettyMembers level more))

end

def pretty (value : Value) : String := String.ofList (value.prettyChars 0)

end Value

/-! ## Documents -/

/-- The value of a double: infinities and NaNs have no number in JSON. -/
def Value.ofBinary64 (x : Binary64) : Value :=
  if x.isFinite then .number x.tokenText else .null

mutual

/-- The JSON value of a document. -/
def ofDatum : Wire.Shape → Wire.Datum → Value
  | _, .absent => .null
  | _, .text value => .text value
  | _, .number value => .ofBinary64 value
  | _, .natural value => .number (toString value.toNat)
  | _, .integer value => .number (toString value.toInt)
  | _, .flag value => .flag value
  | _, .date value => .text (toString value)
  | _, .choice word => .text word
  | .record _ members, .record values => .object (ofMembers members values)
  | .optional inner, .record values => ofDatum inner (.record values)
  | _, .record _ => .object []

def ofMembers : Wire.Members → List Wire.Datum → List (String × Value)
  | .cons name _ shape rest, value :: values => (name, ofDatum shape value) :: ofMembers rest values
  | _, _ => []

end

/-- The JSON value of a document. -/
def ofDocument {α : Type} [Wire.Document α] (document : α) : Value :=
  ofDatum (Wire.Document.shape α) (Wire.Document.toDatum document)

end ReservationLoad.Json

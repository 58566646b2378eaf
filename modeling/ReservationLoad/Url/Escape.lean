import ReservationLoad.Json.Token

/-!
# Percent escapes

A byte that may not stand in a part of a URL is written as a percent sign and
two hexadecimal digits.
-/

namespace ReservationLoad.Url

/-- The bytes of a text. -/
def bytesOf (text : List Char) : List UInt8 := (String.ofList text).toUTF8.toList

/-- The text of bytes in UTF-8. -/
def textOf? (bytes : List UInt8) : Option (List Char) :=
  (String.fromUTF8? ⟨bytes.toArray⟩).map String.toList

/-- A byte as two hexadecimal digits in capitals. -/
def hexPair (byte : UInt8) : List Char :=
  let digit := fun (n : Nat) => Char.toUpper (Nat.digitChar n)
  [digit (byte.toNat / 16), digit (byte.toNat % 16)]

/-- Escapes the characters of a set, and everything beyond ASCII. -/
def escape (set : Char → Bool) (text : List Char) : List Char :=
  text.flatMap fun c =>
    if 0x80 ≤ c.toNat || set c then (bytesOf [c]).flatMap fun byte => '%' :: hexPair byte
    else [c]

/-- Takes the escapes out of a text. -/
def unescape : List UInt8 → List UInt8
  | percent :: high :: low :: rest =>
    match percent == 0x25, Json.hexValue? (Char.ofNat high.toNat),
        Json.hexValue? (Char.ofNat low.toNat) with
    | true, some a, some b => UInt8.ofNat (16 * a + b) :: unescape rest
    | _, _, _ => percent :: unescape (high :: low :: rest)
  | short => short

/-- Control characters. -/
def inControls (c : Char) : Bool := c.toNat < 0x20 || c.toNat = 0x7F

/-- What is escaped in a fragment. -/
def inFragment (c : Char) : Bool := inControls c || [' ', '"', '<', '>', '\x60'].contains c

/-- What is escaped in a path. -/
def inPath (c : Char) : Bool := inFragment c || ['#', '?', '{', '}', '^'].contains c

/-- What is escaped in a user name or a password. -/
def inCredentials (c : Char) : Bool :=
  inPath c || ['/', ':', ';', '=', '@', '[', '\\', ']', '|'].contains c

/-- What is escaped in a query. -/
def inQuery (c : Char) : Bool := inControls c || [' ', '"', '#', '<', '>'].contains c

/-- What is escaped in a query of a known scheme. -/
def inKnownQuery (c : Char) : Bool := inQuery c || c = '\''

end ReservationLoad.Url

import ReservationLoad.Url.Escape
import ReservationLoad.Url.Basic

/-!
# Credentials of a request

The user name and the password of a URL are sent with a request in base 64.
-/

namespace ReservationLoad.Http

/-- The digit of a value below 64. -/
def base64Digit (value : Nat) : Char :=
  if value < 26 then Char.ofNat ('A'.toNat + value)
  else if value < 52 then Char.ofNat ('a'.toNat + value - 26)
  else if value < 62 then Char.ofNat ('0'.toNat + value - 52)
  else if value = 62 then '+'
  else '/'

/-- Bytes in base 64: four digits for three bytes, with signs of equality for
what is missing at the end. -/
def base64 : List UInt8 → List Char
  | [] => []
  | [a] =>
    [base64Digit (a.toNat / 4), base64Digit (a.toNat % 4 * 16), '=', '=']
  | [a, b] =>
    [base64Digit (a.toNat / 4), base64Digit (a.toNat % 4 * 16 + b.toNat / 16),
      base64Digit (b.toNat % 16 * 4), '=']
  | a :: b :: c :: rest =>
    base64Digit (a.toNat / 4) :: base64Digit (a.toNat % 4 * 16 + b.toNat / 16) ::
      base64Digit (b.toNat % 16 * 4 + c.toNat / 64) :: base64Digit (c.toNat % 64) ::
      base64 rest

/-- The credentials that a request to a URL carries, if the URL has any.
Those that are not UTF-8 behind their escapes do not count. -/
def credentials? (url : Url) : Option String :=
  if url.credentials.isEmpty then none
  else
    let text := url.credentials.toList
    let plain := fun (part : List Char) => (Url.textOf? (Url.unescape (Url.bytesOf part)))
    let user := plain (text.takeWhile (· ≠ ':'))
    let password := (plain ((text.dropWhile (· ≠ ':')).drop 1)).getD []
    user.map fun user =>
      "Basic " ++ String.ofList (base64 (Url.bytesOf (user ++ ':' :: password)))

end ReservationLoad.Http

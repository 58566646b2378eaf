import ReservationLoad.Binary64.Text
import ReservationLoad.Text.Quoted
import ReservationLoad.Url.Basic

/-!
# Texts of hosts and of URLs

A host in ASCII, as a request names it.  In a long address the first of the
longest runs of zeros is left out, if it is longer than one.
-/

namespace ReservationLoad.Url

/-- The bytes of a number of the given width, the most significant first. -/
def bytesOfNumber : (count : Nat) → Nat → List Nat
  | 0, _ => []
  | count + 1, value => bytesOfNumber count (value / 256) ++ [value % 256]

/-- The text of an address of the fourth version. -/
def shortAddressText (value : Nat) : List Char :=
  ['.'].intercalate ((bytesOfNumber 4 value).map Decimal.ofNat)

/-- The number of zeros that a list starts with. -/
def leadingZeros (pieces : List Nat) : Nat := (pieces.takeWhile (· = 0)).length

/-- The longest run of zeros: where it starts and how long it is. -/
def longestZeros (start : Nat) : List Nat → Nat × Nat
  | [] => (start, 0)
  | piece :: rest =>
    let here := leadingZeros (piece :: rest)
    let later := longestZeros (start + 1) rest
    if later.2 ≤ here then (start, here) else later

/-- The text of an address of the sixth version. -/
def longAddressText (pieces : List Nat) : List Char :=
  let words := fun (part : List Nat) => [':'].intercalate (part.map Text.hexDigits)
  let (start, count) := longestZeros 0 pieces
  if count < 2 then words pieces
  else words (pieces.take start) ++ [':', ':'] ++ words (pieces.drop (start + count))

/-- The text of a host. -/
def Host.text : Host → String
  | .name domain => String.ofList (Domain.asciiForm domain.toList)
  | .shortAddress value => String.ofList (shortAddressText value)
  | .longAddress pieces => String.ofList ('[' :: (longAddressText pieces ++ [']']))
  | .uninterpreted text => text

/-- The host of a URL with its port, where that is not the usual one. -/
def place (url : Url) : String :=
  let host := (url.host.map Host.text).getD ""
  match url.port with
  | none => host
  | some port => host ++ ":" ++ toString port

/-- What stands between the two slashes of a URL and its path, if it has the slashes. -/
def authority? (url : Url) : Option String :=
  if url.host.isSome then
    some ((if url.credentials.isEmpty then "" else url.credentials ++ "@") ++ url.place)
  else if SchemeKind.of url.scheme = .file then some ""
  else none

/-- The text of a URL. -/
def text (url : Url) : String :=
  url.scheme ++ ":" ++ ((url.authority?.map ("//" ++ ·)).getD "") ++ url.path ++
    ((url.query.map ("?" ++ ·)).getD "") ++ ((url.fragment.map ("#" ++ ·)).getD "")

/-- The port that a request goes to. -/
def portNumber (url : Url) : Nat := url.port.getD ((usualPorts.lookup url.scheme).getD 0)

end ReservationLoad.Url

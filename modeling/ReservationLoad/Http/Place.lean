import ReservationLoad.Url.Text

/-!
# Places of requests

A request names the place that it goes to, and not every URL can be named.  Its
text may not be too long, and what names its host has to do without escapes and
without some of the characters that a URL allows there.
-/

namespace ReservationLoad.Http

/-- A character that may stand anywhere in an authority. -/
def isAuthorityChar (c : Char) : Bool :=
  c.isAlphanum || "!$&\x27()*+,-.;=_~".toList.contains c

/-- What an authority has held so far.  Colons and escapes in front of an at sign
belong to the credentials, and colons in front of a closing bracket to an address. -/
structure AuthorityReader where
  colons : Nat := 0
  opened : Bool := false
  closed : Bool := false
  escaped : Bool := false

/-- Takes one more character, if it may stand there. -/
def AuthorityReader.read? (reader : AuthorityReader) (c : Char) : Option AuthorityReader :=
  if c = ':' then
    if reader.colons < 8 then some { reader with colons := reader.colons + 1 } else none
  else if c = '[' then
    if reader.escaped || reader.opened then none else some { reader with opened := true }
  else if c = ']' then
    if reader.opened && !reader.closed then
      some { reader with closed := true, colons := 0, escaped := false }
    else none
  else if c = '@' then some { reader with colons := 0, escaped := false }
  else if c = '%' then some { reader with escaped := true }
  else if isAuthorityChar c then some reader
  else none

/-- Can a host, with credentials in front of it and a port behind it, be named so? -/
def isAuthority (text : List Char) : Bool :=
  match text.foldlM AuthorityReader.read? {} with
  | none => false
  | some reader =>
    reader.opened = reader.closed && reader.colons ≤ 1 && !reader.escaped &&
      text.getLast? ≠ some '@'

/-- The greatest number of bytes of a place. -/
def placeLimit : Nat := 65534

/-- The greatest length of its scheme. -/
def schemeLimit : Nat := 64

/-- Can a request name the URL as its place?  A scheme that no slashes follow is
taken for a host, and what follows it for a port. -/
def isPlace (url : Url) : Bool :=
  url.text.utf8ByteSize ≤ placeLimit &&
    match url.authority? with
    | some authority =>
      url.scheme.length ≤ schemeLimit && authority ≠ "" && isAuthority authority.toList
    | none =>
      url.query.isNone && url.fragment.isNone && isAuthority (url.scheme ++ ":" ++ url.path).toList

end ReservationLoad.Http

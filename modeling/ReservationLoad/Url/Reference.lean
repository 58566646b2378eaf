import ReservationLoad.Url.Reader

/-!
# References

A target may refer to another place by a whole URL or by as much of one as
differs from the URL at hand.
-/

namespace ReservationLoad.Url

/-- The segments of the directory that a path names its file in, the last
one first. -/
def directory (path : String) : List (List Char) :=
  ((segments .network path.toList).drop 1).dropLast.reverse

/-- The URL that a reference without a scheme leads to. -/
def refer (base : Url) (text : List Char) : Except Fault Url :=
  let start := { base with fragment := none }
  match text with
  | [] => .ok start
  | c :: rest =>
    if c = '#' then
      .ok { base with fragment := some (String.ofList (escape inFragment rest)) }
    else if c = '?' then
      let (_, query, fragment) := splitTail .network text
      .ok { base with query, fragment }
    else if isSlash .network c then
      if rest.head?.any (isSlash .network) then
        readAuthority base.scheme .network (rest.dropWhile (isSlash .network))
      else .ok (start.withTail .network text)
    else
      let (path, query, fragment) := splitTail .network text
      .ok { base with path := readPath .network (directory base.path) path, query, fragment }

/-- The URL that a reference leads to from a URL of a network scheme.  A
scheme that is repeated without two slashes does not count. -/
def resolve (base : Url) (reference : String) : Except Fault Url :=
  let text := cleaned reference.toList
  match splitScheme? text with
  | none => refer base text
  | some (scheme, rest) =>
    if scheme = base.scheme && (rest.takeWhile (isSlash .network)).length < 2 then
      refer base rest
    else readBehind scheme rest

end ReservationLoad.Url

import ReservationLoad.Url.Basic
import ReservationLoad.Url.Escape

/-!
# Reading URLs

A URL is read from left to right: scheme, credentials, host, port, path,
query and fragment.  Tabs and line breaks inside a URL do not count, nor do
control characters and spaces around it.  Only the host and the port can make
a text with a scheme fail.
-/

namespace ReservationLoad.Url

/-- A text without the control characters and spaces around it and without
tabs and line breaks. -/
def cleaned (text : List Char) : List Char :=
  let outer := fun (c : Char) => c.toNat ≤ 0x20
  let inner := ((text.dropWhile outer).reverse.dropWhile outer).reverse
  inner.filter fun c => c ≠ '\t' && c ≠ '\n' && c ≠ '\r'

/-- A character of a scheme behind its first letter. -/
def isSchemeChar (c : Char) : Bool := c.isAlphanum || c = '+' || c = '-' || c = '.'

/-- The scheme of a URL in small letters, and what follows its colon. -/
def splitScheme? : List Char → Option (String × List Char)
  | [] => none
  | c :: rest =>
    if !c.isAlpha then none
    else
      match rest.dropWhile isSchemeChar with
      | ':' :: behind =>
        some (String.ofList ((c :: rest.takeWhile isSchemeChar).map Char.toLower), behind)
      | _ => none

/-- A separator of paths: in a known scheme also the backslash. -/
def isSlash (kind : SchemeKind) (c : Char) : Bool := c = '/' || (kind.isKnown && c = '\\')

/-- Does a character end the part of a URL that holds its host? -/
def endsAuthority (kind : SchemeKind) (c : Char) : Bool :=
  isSlash kind c || c = '?' || c = '#'

/-! ## Hosts -/

/-- A character that may not stand in a host that is not looked into. -/
def isBadHostChar (c : Char) : Bool :=
  c.toNat = 0 || "\t\n\r #/:<>?@[\\]^|".toList.contains c

/-- Reads a host in brackets. -/
def readBracketed (text : List Char) : Except Fault Host :=
  if text.getLast? = some ']' then
    match readLongAddress? (text.drop 1).dropLast with
    | some pieces => .ok (.longAddress pieces)
    | none => .error .badLongAddress
  else .error .badLongAddress

/-- Reads the host of a known scheme: a long address in brackets, a short
address or a name. -/
def readHost (text : List Char) : Except Fault Host :=
  if text.head? = some '[' then readBracketed text
  else
    match (textOf? (unescape (bytesOf text))).bind Domain.read? with
    | none => .error .badName
    | some [] => .error .noHost
    | some name =>
      if endsInNumber name then
        match readShortAddress? name with
        | some value => .ok (.shortAddress value)
        | none => .error .badShortAddress
      else .ok (.name (String.ofList name))

/-- Reads the host of an unknown scheme. -/
def readOtherHost (text : List Char) : Except Fault Host :=
  if text.head? = some '[' then readBracketed text
  else if text.any isBadHostChar then .error .badHostCharacter
  else .ok (.uninterpreted (String.ofList (escape inControls text)))

/-- The host in front of a port: a colon within brackets belongs to the
host. -/
def splitHost : (inside : Bool) → List Char → List Char × List Char
  | _, [] => ([], [])
  | inside, c :: rest =>
    if c = ':' && !inside then ([], c :: rest)
    else
      let inside := if c = '[' then true else if c = ']' then false else inside
      let (host, rest) := splitHost inside rest
      (c :: host, rest)

/-- Reads the digits of a port. -/
def readPortDigits : Nat → List Char → Except Fault Nat
  | port, [] => .ok port
  | port, c :: rest =>
    match Text.digitValue? c with
    | none => .error .badPort
    | some digit =>
      let port := 10 * port + digit
      if port < 65536 then readPortDigits port rest else .error .badPort

/-- Reads a port, which may be empty; the usual port of a scheme is left
out. -/
def readPort (scheme : String) (text : List Char) : Except Fault (Option Nat) := do
  let port ← readPortDigits 0 text
  pure (if text.isEmpty || usualPorts.lookup scheme = some port then none else some port)

/-! ## Credentials -/

/-- The text behind the last at sign and the text in front of it, if there
is one. -/
def splitLastAt (text : List Char) : Option (List Char) × List Char :=
  let tail := (text.reverse.takeWhile (· ≠ '@')).reverse
  if tail.length = text.length then (none, text)
  else (some (text.take (text.length - tail.length - 1)), tail)

/-- The credentials of a URL as they are written in it.  A password that is
empty takes its colon with it. -/
def credentialsText (text : List Char) : List Char :=
  let user := text.takeWhile (· ≠ ':')
  let password := (text.dropWhile (· ≠ ':')).drop 1
  let shownUser := escape inCredentials user
  if password.isEmpty then shownUser
  else shownUser ++ ':' :: escape inCredentials password

/-! ## Paths -/

/-- Is a segment the one for the directory at hand? -/
def isSingleDot (segment : List Char) : Bool :=
  segment = ['.'] || segment.map Char.toLower = "%2e".toList

/-- Is a segment the one for the directory above? -/
def isDoubleDot (segment : List Char) : Bool :=
  ["..", ".%2e", "%2e.", "%2e%2e"].contains (String.ofList (segment.map Char.toLower))

/-- The segments of a path. -/
def segments (kind : SchemeKind) : List Char → List (List Char)
  | [] => [[]]
  | c :: rest =>
    if isSlash kind c then [] :: segments kind rest
    else
      match segments kind rest with
      | [] => [[c]]
      | segment :: more => (c :: segment) :: more

/-- Follows segments from a directory, whose own segments come last first.
The last segment names a file, so that dots in its place leave an empty
name. -/
def follow : List (List Char) → List (List Char) → List (List Char)
  | directory, [] => directory
  | directory, segment :: more =>
    let next :=
      if isDoubleDot segment then
        if more.isEmpty then [] :: directory.drop 1 else directory.drop 1
      else if isSingleDot segment then if more.isEmpty then [] :: directory else directory
      else escape inPath segment :: directory
    follow next more

/-- The path with the given segments, the last one first. -/
def pathText (reversed : List (List Char)) : String :=
  String.ofList (reversed.reverse.flatMap fun segment => '/' :: segment)

/-- The path that a text leads to from a directory. -/
def readPath (kind : SchemeKind) (directory : List (List Char)) (text : List Char) : String :=
  pathText (follow directory (segments kind text))

/-- A text in front of its query, its query, and its fragment. -/
def splitTail (kind : SchemeKind) (text : List Char) :
    List Char × Option String × Option String :=
  let front := text.takeWhile (· ≠ '#')
  let fragment :=
    match text.dropWhile (· ≠ '#') with
    | _ :: rest => some (String.ofList (escape inFragment rest))
    | [] => none
  let query :=
    match front.dropWhile (· ≠ '?') with
    | _ :: rest =>
      let set := if kind.isKnown then inKnownQuery else inQuery
      some (String.ofList (escape set rest))
    | [] => none
  (front.takeWhile (· ≠ '?'), query, fragment)

/-- Fills in the path of a URL that has a host, its query and its fragment. -/
def withTail (url : Url) (kind : SchemeKind) (text : List Char) : Url :=
  let (path, query, fragment) := splitTail kind text
  let path :=
    match path with
    | [] => if kind.isKnown then "/" else ""
    | c :: rest => if isSlash kind c then readPath kind [] rest else readPath kind [] (c :: rest)
  { url with path, query, fragment }

/-! ## Whole URLs -/

/-- Reads what follows the two slashes behind a scheme. -/
def readAuthority (scheme : String) (kind : SchemeKind) (text : List Char) :
    Except Fault Url := do
  let authority := text.takeWhile fun c => !endsAuthority kind c
  let tail := text.dropWhile fun c => !endsAuthority kind c
  let (credentials?, place) := splitLastAt authority
  let credentials := credentialsText (credentials?.getD [])
  if credentials? = some [] && place.isEmpty && !tail.isEmpty then throw .noHost
  let (hostText, portText) := splitHost false place
  if kind = .network && hostText.isEmpty then throw .noHost
  let host ← if kind = .network then readHost hostText else readOtherHost hostText
  if hostText.isEmpty && !portText.isEmpty then throw .noHost
  -- A backslash ends the port in every scheme.
  let digits := (portText.drop 1).takeWhile (· ≠ '\\')
  let port ← readPort scheme digits
  if hostText.isEmpty && !credentials.isEmpty then throw .noHost
  let behind := (portText.drop 1).drop digits.length ++ tail
  let url : Url :=
    { scheme, port
      credentials := String.ofList credentials
      host := if hostText.isEmpty then none else some host }
  pure (url.withTail kind behind)

/-- A letter of a drive with its colon or bar, which is not a host. -/
def isDrive : List Char → Bool
  | [letter, mark] => letter.isAlpha && (mark = ':' || mark = '|')
  | _ => false

/-- Reads what follows the scheme of a file. -/
def readFile (scheme : String) (text : List Char) : Except Fault Url := do
  let url : Url := { scheme }
  match text with
  | a :: b :: rest =>
    if isSlash .file a && isSlash .file b then
      let hostText := rest.takeWhile fun c => !endsAuthority .file c
      if hostText.isEmpty || isDrive hostText then pure (url.withTail .file rest)
      else
        let host ← readHost hostText
        let shown := if host = .name "localhost" then none else some host
        pure ({ url with host := shown }.withTail .file (rest.drop hostText.length))
    else pure (url.withTail .file text)
  | _ => pure (url.withTail .file text)

/-- Reads what follows an unknown scheme. -/
def readOther (scheme : String) (text : List Char) : Except Fault Url :=
  match text with
  | '/' :: '/' :: rest => readAuthority scheme .other rest
  | '/' :: _ => .ok (({ scheme } : Url).withTail .other text)
  | _ =>
    let (path, query, fragment) := splitTail .other text
    .ok { scheme, query, fragment, path := String.ofList (escape inControls path) }

/-- Reads a URL behind its scheme. -/
def readBehind (scheme : String) (text : List Char) : Except Fault Url :=
  match SchemeKind.of scheme with
  | .network => readAuthority scheme .network (text.dropWhile (isSlash .network))
  | .file => readFile scheme text
  | .other => readOther scheme text

/-- Reads a URL. -/
def read (text : String) : Except Fault Url :=
  match splitScheme? (cleaned text.toList) with
  | none => .error .noScheme
  | some (scheme, rest) => readBehind scheme rest

end ReservationLoad.Url

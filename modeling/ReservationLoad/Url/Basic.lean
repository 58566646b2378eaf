import ReservationLoad.Url.Address

/-!
# URLs

The parts of a URL, and why a text is not one.
-/

namespace ReservationLoad

/-- The host of a URL. -/
inductive Url.Host
  | name (text : String)
  | shortAddress (value : Nat)
  | longAddress (pieces : List Nat)
  /-- The host of a scheme whose hosts are not looked into. -/
  | uninterpreted (text : String)
deriving DecidableEq

/-- A URL in its parts.  The port is given only where it is not the usual
port of the scheme. -/
structure Url where
  scheme : String
  credentials : String := ""
  host : Option Url.Host := none
  port : Option Nat := none
  path : String := ""
  query : Option String := none
  fragment : Option String := none
deriving DecidableEq

namespace Url

/-- Why a text is not a URL. -/
inductive Fault
  | noScheme
  | noHost
  | badPort
  | badShortAddress
  | badLongAddress
  | badName
  | badHostCharacter
deriving DecidableEq

/-- The text of a fault. -/
def Fault.message : Fault → String
  | noScheme => "relative URL without a base"
  | noHost => "empty host"
  | badPort => "invalid port number"
  | badShortAddress => "invalid IPv4 address"
  | badLongAddress => "invalid IPv6 address"
  | badName => "invalid international domain name"
  | badHostCharacter => "invalid domain character"

/-- A way to read URLs. -/
abbrev Parser := String → Except Fault Url

/-- How the rest of a URL is read depends on its scheme. -/
inductive SchemeKind
  /-- Schemes of the network, which always have a host. -/
  | network
  | file
  | other
deriving DecidableEq

/-- The usual ports of the network schemes. -/
def usualPorts : List (String × Nat) :=
  [("http", 80), ("https", 443), ("ws", 80), ("wss", 443), ("ftp", 21)]

/-- The kind of a scheme. -/
def SchemeKind.of (scheme : String) : SchemeKind :=
  if scheme = "file" then file
  else if (usualPorts.lookup scheme).isSome then network
  else other

/-- In schemes other than the unknown ones a backslash is as good as a
slash. -/
def SchemeKind.isKnown : SchemeKind → Bool
  | other => false
  | _ => true

/-- The part of a URL that a request to its host names. -/
def target (url : Url) : String :=
  match url.query with
  | none => url.path
  | some query => url.path ++ "?" ++ query

/-- Is the URL one that requests can be sent to? -/
def isHttp (url : Url) : Bool := url.scheme = "http" || url.scheme = "https"

end Url

end ReservationLoad

import ReservationLoad.Http.Layout
import ReservationLoad.Http.Transport
import Std.Async.DNS
import Std.Async.TCP
import Std.Async.Timer

/-!
# The network

Requests are sent over one connection each, which is given up as soon as the
head of the response is there or the time for the delivery is up.  Targets
that want an encrypted connection cannot be reached.
-/

namespace ReservationLoad.Live

open Std.Async Std.Net Http

/-- The time until a reading of the monotonic clock in milliseconds. -/
def timeUntil (deadline : Nat) : BaseIO Std.Time.Millisecond.Offset := do
  return .ofNat (deadline - (← IO.monoMsNow))

/-- The result of an action, or nothing if it is not there in time. -/
def inTime {α : Type} (deadline : Nat) (action : Async α) : Async (Option α) := do
  let alarm ← Sleep.mk (← timeUntil deadline)
  let result ← Async.race (some <$> action) (do alarm.wait; return none)
  alarm.stop
  return result

/-- The addresses of a host with a port. -/
def addressesOf (port : UInt16) : Url.Host → Async (List SocketAddress)
  | .shortAddress value =>
    match Url.bytesOfNumber 4 value with
    | [a, b, c, d] => return [.v4 ⟨.ofParts a.toUInt8 b.toUInt8 c.toUInt8 d.toUInt8, port⟩]
    | _ => return []
  | .longAddress pieces =>
    match pieces.map Nat.toUInt16 with
    | [a, b, c, d, e, f, g, h] => return [.v6 ⟨.ofParts a b c d e f g h, port⟩]
    | _ => return []
  | host => do
    let found ← DNS.getAddrInfo host.text (toString port.toNat)
    return found.toList.map fun
      | .v4 address => .v4 ⟨address, port⟩
      | .v6 address => .v6 ⟨address, port⟩

/-- Connects to the first of some addresses that can be reached. -/
def connectFirst : List SocketAddress → Async (Option TCP.Socket.Client)
  | [] => return none
  | address :: others => do
    let socket ← TCP.Socket.Client.mk
    try
      socket.connect address
      return some socket
    catch _ => connectFirst others

/-- A connection to where a request goes. -/
def connectFor (request : Request) : Async (Option TCP.Socket.Client) := do
  match request.url.host with
  | some host =>
    if request.url.scheme ≠ "http" then return none
    try connectFirst (← addressesOf request.url.portNumber.toUInt16 host)
    catch _ => return none
  | none => return none

/-- The greatest number of bytes that are received at once. -/
def chunkSize : UInt64 := 8192

/-- Receives bytes, or tells that there will not be any, or that the time is
up. -/
def receiveSome (deadline : Nat) (socket : TCP.Socket.Client) :
    Async (Option (Option ByteArray)) := do
  Selectable.one #[
    .case (socket.recvSelector chunkSize) fun bytes => return some bytes,
    .case (← Selector.sleep (← timeUntil deadline)) fun _ => return none]

/-- Waits for the response on a connection.  Every turn receives at least one
byte, so that the fuel is the greatest length of a head. -/
def awaitResponse (deadline : Nat) (socket : TCP.Socket.Client) :
    (fuel : Nat) → HeadReader → Async Answer
  | 0, _ => return .garbage
  | fuel + 1, reader => do
    match ← receiveSome deadline socket with
    | none => return .silence
    | some none => return .garbage
    | some (some bytes) =>
      match receive reader bytes.toList with
      | .more reader => awaitResponse deadline socket fuel reader
      | .done answer => return answer

/-- Has a request answered until the deadline. -/
def ask (deadline : Nat) (request : Request) : Async Answer := do
  match ← inTime deadline (connectFor request) with
  | none => return .silence
  | some none => return .unreachable
  | some (some socket) =>
    try
      socket.send request.text.toUTF8
      awaitResponse deadline socket headLimit {}
    catch _ => return .garbage

/-- Posts a reservation to a configured target. -/
def post (config : TargetConfig) (reservation : Reservation) : IO Outcome := do
  let deadline := (← IO.monoMsNow) + config.timeoutMs.toNat
  let delivery ←
    (deliverBy (ask deadline) config.url config.timeoutMs (bodyOf reservation)).block
  return delivery.outcome

end ReservationLoad.Live

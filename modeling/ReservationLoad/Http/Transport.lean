import ReservationLoad.Config.Basic
import ReservationLoad.Http.Exchange
import ReservationLoad.Json.Value
import ReservationLoad.Reservation.Wire
import ReservationLoad.Transport

/-!
# Delivery over HTTP

A reservation is posted as a JSON document.  Any status that comes back is an
answer; only a delivery without one is a failure.
-/

namespace ReservationLoad.Http

/-- The text that is posted for a reservation. -/
def bodyOf (reservation : Reservation) : String := (Json.ofDocument reservation).compact

/-- The outcome of a delivery. -/
def Delivery.outcome (delivery : Delivery) : Outcome :=
  match delivery.result with
  | .ok status => .answered status
  | .error failure => .failed [failure.message]

/-- The transport that posts to a configured target.  How long each delivery
takes is up to the network. -/
def transport (target : Target) (latency : Nat → Binary64) (config : TargetConfig) :
    Transport where
  name := "http"
  post before reservation :=
    ⟨(deliver target config.url config.timeoutMs (bodyOf reservation)).outcome, latency before⟩

end ReservationLoad.Http

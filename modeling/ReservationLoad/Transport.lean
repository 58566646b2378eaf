import ReservationLoad.Reservation.Basic

/-!
# Transports

A transport delivers a reservation and tells what came of it: a status that
was answered, an error with its causes, or a breakdown of the transport
itself.  How long it took is measured around the delivery.
-/

namespace ReservationLoad

/-- What came of one delivery. -/
inductive Outcome
  /-- The target answered with a status. -/
  | answered (status : UInt16)
  /-- The delivery failed; the outermost cause comes first. -/
  | failed (causes : List String)
  /-- The transport broke down, possibly with a message. -/
  | crashed (message : Option String)
deriving DecidableEq

namespace Outcome

/-- The only status that counts as a success. -/
def successStatus : UInt16 := 200

def isSuccess : Outcome → Bool
  | answered status => status == successStatus
  | failed _ => false
  | crashed _ => false

end Outcome

/-- An outcome with the time it took in milliseconds. -/
structure Reply where
  outcome : Outcome
  latency : Binary64
deriving DecidableEq

/-- A way to deliver reservations.  What comes of a delivery may depend on
how many deliveries went before. -/
structure Transport where
  name : String
  post : (before : Nat) → Reservation → Reply

namespace Transport

/-- A target that answers every reservation with one status after a fixed
delay. -/
def mock (status : UInt16) (delayMs : UInt64) : Transport where
  name := "mock"
  post _ _ := ⟨.answered status, .ofWord delayMs⟩

end Transport

end ReservationLoad

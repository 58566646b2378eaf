import ReservationLoad.Binary64.Basic
import ReservationLoad.Calendar.Date

/-!
# Reservations

The document that every request carries: one hotel reservation with its
guest, its room, its dates and its price.
-/

namespace ReservationLoad

/-- Where a reservation stands. -/
inductive Status
  | confirmed
  | pending
  | cancelled
deriving DecidableEq, Inhabited

namespace Status

/-- The word for a status in documents. -/
def word : Status → String
  | confirmed => "confirmed"
  | pending => "pending"
  | cancelled => "cancelled"

/-- Every status, in the order in which messages list them. -/
def all : List Status := [confirmed, pending, cancelled]

def ofWord? (word : String) : Option Status := all.find? (fun s => s.word == word)

end Status

/-- One reservation as it is sent to the target. -/
structure Reservation where
  guestName : String
  guestEmail : String
  guestPhone : String
  roomNumber : UInt32
  roomType : String
  numberOfGuests : UInt32
  checkInDate : Calendar.Date
  checkOutDate : Calendar.Date
  numberOfNights : UInt32
  pricePerNight : Binary64
  totalPrice : Binary64
  paymentMethod : String
  paid : Bool
  status : Status
  specialRequests : String
  createdAt : Int64
  updatedAt : Int64
deriving DecidableEq

end ReservationLoad

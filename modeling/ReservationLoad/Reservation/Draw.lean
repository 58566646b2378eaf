import ReservationLoad.Chance.Cipher
import ReservationLoad.Chance.Range
import ReservationLoad.Reservation.Tables

/-!
# Drawing reservations

A reservation is put together from four rows drawn one after another: a
guest, a room, a date and the terms.  A seeded generator derives a fresh
stream from the request's id, so its reservation depends on nothing but the
tables, the seed and the id; without a seed the worker's own stream is used.
-/

namespace ReservationLoad

/-- Why no reservation could be drawn. -/
inductive DrawFault
  | emptyTable
deriving DecidableEq

namespace DrawFault

def message : DrawFault → String
  | emptyTable => "cannot sample empty range"

end DrawFault

namespace Reservation

/-- The reservation that four rows make. -/
def ofRows (guest : GuestRow) (room : RoomRow) (date : DateRow) (terms : TermsRow) :
    Reservation where
  guestName := guest.name
  guestEmail := guest.email
  guestPhone := guest.phone
  roomNumber := room.number
  roomType := room.roomType
  numberOfGuests := room.guests
  checkInDate := date.checkIn
  checkOutDate := date.checkOut
  numberOfNights := terms.nights
  pricePerNight := terms.pricePerNight
  totalPrice := terms.totalPrice
  paymentMethod := terms.paymentMethod
  paid := terms.paid
  status := terms.status
  specialRequests := terms.specialRequest
  createdAt := terms.timestamp
  updatedAt := terms.timestamp

end Reservation

open Chance

/-- Drawing from a source, which may fail.  What was drawn in front of a
failure stays drawn. -/
abbrev Drawing (σ α : Type) := ExceptT DrawFault (StateM σ) α

variable {σ : Type} [WordSource σ]

/-- Draws the place of a row of a table.  Nothing is drawn for an empty
table. -/
def drawPlace {ρ : Type} (rows : List ρ) : Drawing σ (Fin rows.length) :=
  if some : 0 < rows.length then
    fun source =>
      let drawn := drawBelow (UInt64.ofNat rows.length) source
      (.ok ⟨drawn.1, drawBelow_lt some source⟩, drawn.2)
  else throw .emptyTable

namespace Tables

/-- The place of a row in each of the tables. -/
structure Places (tables : Tables) where
  guest : Fin tables.guests.length
  room : Fin tables.rooms.length
  date : Fin tables.dates.length
  terms : Fin tables.terms.length
deriving DecidableEq

/-- Draws a place in each table: guest, room, date and terms, in this
order. -/
def drawPlaces (tables : Tables) : Drawing σ tables.Places := do
  let guest ← drawPlace tables.guests
  let room ← drawPlace tables.rooms
  let date ← drawPlace tables.dates
  let terms ← drawPlace tables.terms
  pure ⟨guest, room, date, terms⟩

/-- The reservation that the rows at some places make. -/
def reservationAt (tables : Tables) (places : tables.Places) : Reservation :=
  .ofRows tables.guests[places.guest] tables.rooms[places.room] tables.dates[places.date]
    tables.terms[places.terms]

/-- Draws a reservation.  Where none can be drawn nobody goes on drawing from
the source. -/
def draw (tables : Tables) (source : σ) : Except DrawFault (Reservation × σ) :=
  match tables.drawPlaces.run source with
  | (.ok places, later) => .ok (tables.reservationAt places, later)
  | (.error fault, _) => .error fault

end Tables

/-- Tables to draw from, and the seed if there is one. -/
structure Generator where
  tables : Tables
  seed : Option UInt64

namespace Generator

/-- The odd factor that spreads request ids over the 64-bit words. -/
def spread : UInt64 := 0x9E3779B97F4A7C15

/-- The seed of the stream for one request. -/
def requestSeed (seed id : UInt64) : UInt64 := seed ^^^ (id * spread)

/-- The reservation for a request, and the worker's stream behind it. -/
def drawFor (g : Generator) (id : UInt64) (stream : σ) : Except DrawFault (Reservation × σ) :=
  match g.seed with
  | some seed => do
    let (reservation, _) ← g.tables.draw (Cipher.ofSeed (requestSeed seed id))
    pure (reservation, stream)
  | none => g.tables.draw stream

end Generator

end ReservationLoad

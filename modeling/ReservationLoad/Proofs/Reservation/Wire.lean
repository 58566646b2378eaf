import ReservationLoad.Http.Transport
import ReservationLoad.Proofs.Json.RoundTrip
import ReservationLoad.Proofs.Json.Unique
import ReservationLoad.Proofs.Reservation.Stock

/-!
# Reservations on the wire

A reservation is posted as the compact text of its document.  The text is one
object with the seventeen members in their order, and it reads as the
reservation itself: every text comes back through its escapes, every date with
the sign of its year.  The prices are the only members of which this has to be
asked, and those of the reference tables have it.
-/

namespace ReservationLoad

open Chance Json Wire

namespace Reservation

/-- The members of a reservation, in order. -/
def wireNames : List String :=
  ["guest_name", "guest_email", "guest_phone", "room_number", "room_type", "number_of_guests",
    "check_in_date", "check_out_date", "number_of_nights", "price_per_night", "total_price",
    "payment_method", "paid", "reservation_status", "special_requests", "created_at",
    "updated_at"]

/-- The posted text stands for one object with the members of a reservation,
and for nothing else, and it reads as the reservation. -/
structure RoundTrips (r : Reservation) : Prop where
  object : ∃ members, (∀ value, IsText value (Http.bodyOf r) ↔ value = .object members) ∧
    members.map Prod.fst = wireNames
  readBack : readDocument Reservation (Http.bodyOf r) = .ok r

variable {r : Reservation}

theorem ofDatum?_toDatum (r : Reservation) :
    Document.ofDatum? (Document.toDatum r) = some r := by
  have status : Document.ofDatum? (Document.toDatum r.status) = some r.status := by
    cases r.status <;> rfl
  have room := UInt32.toUInt32_toUInt64 r.roomNumber
  have guests := UInt32.toUInt32_toUInt64 r.numberOfGuests
  have nights := UInt32.toUInt32_toUInt64 r.numberOfNights
  change (Document.ofDatum? (Document.toDatum r.status) >>= fun status => _) = _
  rw [status, Option.bind_eq_bind, Option.bind_some, room, guests, nights]
  rfl

theorem conforms_toDatum (perNight : Survives r.pricePerNight) (total : Survives r.totalPrice) :
    Conforms (Document.shape Reservation) (Document.toDatum r) := by
  have status : r.status.word ∈ Status.all.map Status.word := by
    cases r.status <;> decide
  refine ⟨by decide, trivial, trivial, trivial, ?room, trivial, ?guests, trivial, trivial, ?nights,
    perNight, total, trivial, trivial, status, trivial, trivial, trivial, trivial⟩
  case room => exact r.roomNumber.toNat_lt
  case guests => exact r.numberOfGuests.toNat_lt
  case nights => exact r.numberOfNights.toNat_lt

theorem faithful (perNight : Survives r.pricePerNight) (total : Survives r.totalPrice) :
    Faithful r :=
  ⟨conforms_toDatum perNight total, ofDatum?_toDatum r⟩

theorem roundTrips (perNight : Survives r.pricePerNight) (total : Survives r.totalPrice) :
    r.RoundTrips where
  object := ⟨_, (isText_compact_ofDocument r).iff_eq, rfl⟩
  readBack := (faithful perNight total).readDocument_eq (isText_compact_ofDocument r)

end Reservation

/-! ## The reference tables -/

/-- Every price of the reference tables comes back from its text. -/
theorem Tables.survives_of_mem_terms {row : TermsRow} (member : row ∈ standard.terms) :
    Survives row.pricePerNight ∧ Survives row.totalPrice := by
  have all : standard.terms.all
      (fun row => survives row.pricePerNight && survives row.totalPrice) = true := by
    decide +kernel
  have both := List.all_eq_true.mp all row member
  rw [Bool.and_eq_true] at both
  exact ⟨.of_survives both.1, .of_survives both.2⟩

theorem Tables.roundTrips_of_draw {σ : Type} [WordSource σ] {source later : σ} {r : Reservation}
    (drawn : standard.draw source = .ok (r, later)) : r.RoundTrips := by
  obtain ⟨places, -, rfl⟩ := exists_of_draw drawn
  obtain ⟨perNight, total⟩ := survives_of_mem_terms (List.getElem_mem places.terms.isLt)
  exact Reservation.roundTrips perNight total

/-- Every reservation whose prices come back from their texts round-trips, and
every reservation drawn from the reference tables does, from whatever stream and
for whatever request. -/
theorem reservations_round_trip :
    (∀ r : Reservation, Survives r.pricePerNight → Survives r.totalPrice → r.RoundTrips) ∧
      (∀ {σ : Type} [WordSource σ] (source : σ),
        ∃ r later, Tables.standard.draw source = .ok (r, later) ∧ r.RoundTrips) ∧
      ∀ {σ : Type} [WordSource σ] (seed : Option UInt64) (id : UInt64) (stream : σ),
        ∃ r later, Generator.drawFor ⟨Tables.standard, seed⟩ id stream = .ok (r, later) ∧
          r.RoundTrips := by
  refine ⟨fun r perNight total => Reservation.roundTrips perNight total, ?_, ?_⟩
  · intro σ _ source
    obtain ⟨r, later, drawn⟩ := Tables.standard_stocked.draw source
    exact ⟨r, later, drawn, Tables.roundTrips_of_draw drawn⟩
  · intro σ _ seed id stream
    obtain ⟨r, later, drawn⟩ :=
      Generator.drawFor_of_stocked (g := ⟨Tables.standard, seed⟩) Tables.standard_stocked id stream
    refine ⟨r, later, drawn, ?_⟩
    cases seed with
    | none => exact Tables.roundTrips_of_draw drawn
    | some seed =>
        obtain ⟨⟨r', _⟩, fresh, drawn⟩ := exists_of_bind_eq_ok drawn
        cases drawn
        exact Tables.roundTrips_of_draw fresh

/-- A guest with quotes and a line break in the name, a stay in the year
before the year zero, and nothing to pay. -/
theorem reservations_round_trip_free_of_charge :
    Survives .zero ∧
      Reservation.RoundTrips
        { guestName := "\"\\\n", guestEmail := "", guestPhone := "+34", roomNumber := 4294967295,
          roomType := "Doble", numberOfGuests := 0, checkInDate := ⟨-1, 12, 31, by decide⟩,
          checkOutDate := ⟨12345, 1, 1, by decide⟩, numberOfNights := 1, pricePerNight := .zero,
          totalPrice := .zero, paymentMethod := "cash", paid := false, status := .cancelled,
          specialRequests := "ñ", createdAt := -9223372036854775808, updatedAt := 0 } := by
  have survives : Survives .zero := .of_survives (by decide +kernel)
  exact ⟨survives, reservations_round_trip.1 _ survives survives⟩

end ReservationLoad

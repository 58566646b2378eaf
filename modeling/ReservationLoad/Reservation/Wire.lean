import ReservationLoad.Reservation.Basic
import ReservationLoad.Wire.Shape

/-!
# Reservations as documents

The seventeen members of a reservation, in the order in which they are
written.
-/

namespace ReservationLoad

open Wire

instance : Document Status where
  shape := .choice (Status.all.map Status.word)
  toDatum s := .choice s.word
  ofDatum? datum := datum.choice?.bind Status.ofWord?

instance : Document Reservation where
  shape := .record "Reservation" <| .ofList
    [("guest_name", .required, .text),
      ("guest_email", .required, .text),
      ("guest_phone", .required, .text),
      ("room_number", .required, .natural .word32),
      ("room_type", .required, .text),
      ("number_of_guests", .required, .natural .word32),
      ("check_in_date", .required, .date),
      ("check_out_date", .required, .date),
      ("number_of_nights", .required, .natural .word32),
      ("price_per_night", .required, .number),
      ("total_price", .required, .number),
      ("payment_method", .required, .text),
      ("paid", .required, .flag),
      ("reservation_status", .required, Document.shape Status),
      ("special_requests", .required, .text),
      ("created_at", .required, .integer),
      ("updated_at", .required, .integer)]
  toDatum r := .record
    [.text r.guestName, .text r.guestEmail, .text r.guestPhone,
      .natural r.roomNumber.toUInt64, .text r.roomType, .natural r.numberOfGuests.toUInt64,
      .date r.checkInDate, .date r.checkOutDate, .natural r.numberOfNights.toUInt64,
      .number r.pricePerNight, .number r.totalPrice, .text r.paymentMethod, .flag r.paid,
      Document.toDatum r.status, .text r.specialRequests,
      .integer r.createdAt, .integer r.updatedAt]
  ofDatum?
    | .record [guestName, guestEmail, guestPhone, roomNumber, roomType, numberOfGuests,
        checkInDate, checkOutDate, numberOfNights, pricePerNight, totalPrice, paymentMethod,
        paid, status, specialRequests, createdAt, updatedAt] => do
      pure
        { guestName := ← guestName.text?
          guestEmail := ← guestEmail.text?
          guestPhone := ← guestPhone.text?
          roomNumber := (← roomNumber.natural?).toUInt32
          roomType := ← roomType.text?
          numberOfGuests := (← numberOfGuests.natural?).toUInt32
          checkInDate := ← checkInDate.date?
          checkOutDate := ← checkOutDate.date?
          numberOfNights := (← numberOfNights.natural?).toUInt32
          pricePerNight := ← pricePerNight.number?
          totalPrice := ← totalPrice.number?
          paymentMethod := ← paymentMethod.text?
          paid := ← paid.flag?
          status := ← Document.ofDatum? status
          specialRequests := ← specialRequests.text?
          createdAt := ← createdAt.integer?
          updatedAt := ← updatedAt.integer? }
    | _ => none

end ReservationLoad

import ReservationLoad.Proofs.Wire.Records
import ReservationLoad.Reservation.Draw

/-!
# Stocked tables

Whether a reservation can be composed depends on the tables alone: with
stocked tables it can for every request and from every stream, and when one of
the four tables is empty it can for none.  The tables of every load test are
stocked.
-/

namespace ReservationLoad

open Chance

/-- None of the four tables is empty. -/
structure Tables.Stocked (tables : Tables) : Prop where
  guests : tables.guests ≠ []
  rooms : tables.rooms ≠ []
  dates : tables.dates ≠ []
  terms : tables.terms ≠ []

theorem Tables.standard_stocked : Tables.standard.Stocked where
  guests := by simp [standard, guestNames]
  rooms := by simp [standard]
  dates := by decide
  terms := by decide

variable {σ : Type} [WordSource σ]

/-- A place can be drawn in every table that has rows. -/
theorem exists_run_drawPlace {ρ : Type} {rows : List ρ} (stocked : rows ≠ []) (source : σ) :
    ∃ place later, (drawPlace rows).run source = (.ok place, later) := by
  rw [drawPlace, dif_pos (List.length_pos_iff.mpr stocked)]
  exact ⟨_, _, rfl⟩

/-- A reservation can be drawn from stocked tables. -/
theorem Tables.Stocked.draw {tables : Tables} (stocked : tables.Stocked) (source : σ) :
    ∃ reservation later, tables.draw source = .ok (reservation, later) := by
  obtain ⟨guest, afterGuest, guestDrawn⟩ := exists_run_drawPlace stocked.guests source
  obtain ⟨room, afterRoom, roomDrawn⟩ := exists_run_drawPlace stocked.rooms afterGuest
  obtain ⟨date, afterDate, dateDrawn⟩ := exists_run_drawPlace stocked.dates afterRoom
  obtain ⟨terms, afterTerms, termsDrawn⟩ := exists_run_drawPlace stocked.terms afterDate
  refine ⟨tables.reservationAt ⟨guest, room, date, terms⟩, afterTerms, ?_⟩
  simp only [Tables.draw, drawPlaces, Wire.run_bind, guestDrawn, roomDrawn, dateDrawn, termsDrawn]
  rfl

/-- A generator with stocked tables composes a reservation for every
request. -/
theorem Generator.drawFor_of_stocked {g : Generator} (stocked : g.tables.Stocked)
    (id : UInt64) (stream : σ) :
    ∃ reservation later, g.drawFor id stream = .ok (reservation, later) := by
  unfold drawFor
  cases g.seed with
  | some seed =>
      obtain ⟨reservation, later, drawn⟩ :=
        stocked.draw (Cipher.ofSeed (requestSeed seed id))
      refine ⟨reservation, stream, ?_⟩
      simp only [drawn]
      rfl
  | none => exact stocked.draw stream

/-! ## Tables that lack rows -/

/-- Only stocked tables have a place in each of them. -/
theorem Tables.Places.stocked {tables : Tables} (places : tables.Places) : tables.Stocked where
  guests := List.length_pos_iff.mp places.guest.pos
  rooms := List.length_pos_iff.mp places.room.pos
  dates := List.length_pos_iff.mp places.date.pos
  terms := List.length_pos_iff.mp places.terms.pos

/-- A reservation that was drawn stands at the places that were drawn. -/
theorem Tables.exists_of_draw {tables : Tables} {source later : σ} {reservation : Reservation}
    (drawn : tables.draw source = .ok (reservation, later)) :
    ∃ places, tables.drawPlaces.run source = (.ok places, later) ∧
      reservation = tables.reservationAt places := by
  unfold draw at drawn
  split at drawn
  next places after found =>
    cases drawn
    exact ⟨places, found, rfl⟩
  next => cases drawn

/-- Whoever draws a reservation draws from stocked tables. -/
theorem Tables.stocked_of_draw {tables : Tables} {source : σ} {result : Reservation × σ}
    (drawn : tables.draw source = .ok result) : tables.Stocked := by
  obtain ⟨places, -, -⟩ := exists_of_draw drawn
  exact places.stocked

/-- Without stocked tables a generator composes nothing for any request. -/
theorem Generator.stocked_of_drawFor {g : Generator} {id : UInt64} {stream : σ}
    {result : Reservation × σ} (drawn : g.drawFor id stream = .ok result) :
    g.tables.Stocked := by
  unfold drawFor at drawn
  split at drawn
  next seed seeded =>
    cases inner : g.tables.draw (Cipher.ofSeed (requestSeed seed id)) with
    | error fault =>
        rw [inner] at drawn
        cases drawn
    | ok composed => exact Tables.stocked_of_draw inner
  next => exact Tables.stocked_of_draw drawn

end ReservationLoad

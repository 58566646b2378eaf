import ReservationLoad.Proofs.Calendar.Order
import ReservationLoad.Proofs.Chance.Draws
import ReservationLoad.Proofs.Reservation.Stock

/-!
# Drawing reservations from a script

From stocked tables and any script a reservation is drawn after finitely many
words: four draws one after another, each of which takes the words up to the
first that it accepts (`Tables.Call`).  What is drawn is made of a whole row of
each table, so what holds of all rows holds of the reservation.  When a table is
empty, the tables in front of it are drawn from and nothing else is.

These are statements about scripts, behind whose words there are only zeros.
They say nothing about how soon the words of the cipher are accepted.
-/

namespace ReservationLoad

open Chance

/-! ## Rows in a reservation -/

namespace Reservation

/-- The parts of a reservation that come from one table each. -/
def guestRow (r : Reservation) : GuestRow := ⟨r.guestName, r.guestEmail, r.guestPhone⟩

def roomRow (r : Reservation) : RoomRow := ⟨r.roomNumber, r.roomType, r.numberOfGuests⟩

def dateRow (r : Reservation) : DateRow := ⟨r.checkInDate, r.checkOutDate⟩

def termsRow (r : Reservation) : TermsRow where
  nights := r.numberOfNights
  pricePerNight := r.pricePerNight
  totalPrice := r.totalPrice
  paymentMethod := r.paymentMethod
  paid := r.paid
  status := r.status
  specialRequest := r.specialRequests
  timestamp := r.createdAt

/-- A reservation that is made of whole rows. -/
structure FromRows (tables : Tables) (r : Reservation) : Prop where
  guest : r.guestRow ∈ tables.guests
  room : r.roomRow ∈ tables.rooms
  date : r.dateRow ∈ tables.dates
  terms : r.termsRow ∈ tables.terms
  /-- Both time stamps are that of the terms. -/
  updatedAt : r.updatedAt = r.termsRow.timestamp

/-- What the rows of the standard tables are made for: a reservation that fits
together. -/
structure FitsTogether (r : Reservation) : Prop where
  price : r.totalPrice = r.pricePerNight * .ofNat r.numberOfNights.toNat
  stamps : r.createdAt = r.updatedAt
  stay : r.checkOutDate.IsDayAfter r.checkInDate

/-- What holds of every row of a table holds of its part of the reservation. -/
theorem FromRows.holds {tables : Tables} {r : Reservation} (made : r.FromRows tables)
    {Guest : GuestRow → Prop} {Room : RoomRow → Prop} {Dates : DateRow → Prop}
    {Terms : TermsRow → Prop} (guests : ∀ row ∈ tables.guests, Guest row)
    (rooms : ∀ row ∈ tables.rooms, Room row) (dates : ∀ row ∈ tables.dates, Dates row)
    (terms : ∀ row ∈ tables.terms, Terms row) :
    Guest r.guestRow ∧ Room r.roomRow ∧ Dates r.dateRow ∧ Terms r.termsRow :=
  ⟨guests _ made.guest, rooms _ made.room, dates _ made.date, terms _ made.terms⟩

end Reservation

namespace Tables

theorem fromRows_reservationAt {tables : Tables} (places : tables.Places) :
    (tables.reservationAt places).FromRows tables where
  guest := List.getElem_mem places.guest.isLt
  room := List.getElem_mem places.room.isLt
  date := List.getElem_mem places.date.isLt
  terms := List.getElem_mem places.terms.isLt
  updatedAt := rfl

theorem totalPrice_termsRow (repetition place : Nat) {terms : Terms}
    (few : terms.nights < UInt32.size) :
    (termsRow repetition place terms).totalPrice =
      (termsRow repetition place terms).pricePerNight *
        .ofNat (termsRow repetition place terms).nights.toNat := by
  have nights : (UInt32.ofNat terms.nights).toNat = terms.nights := UInt32.toNat_ofNat_of_lt' few
  simp only [termsRow, nights]

/-- The total price of a standard row is that of its nights. -/
theorem totalPrice_of_mem_terms {row : TermsRow} (member : row ∈ standard.terms) :
    row.totalPrice = row.pricePerNight * .ofNat row.nights.toNat := by
  obtain ⟨repetition, -, inside⟩ := List.mem_flatMap.mp member
  obtain ⟨place, within, rfl⟩ := List.mem_mapIdx.mp inside
  have few : ∀ terms ∈ termsCycle, terms.nights < UInt32.size := by decide
  exact totalPrice_termsRow repetition place (few _ (List.getElem_mem within))

/-- Every standard stay lasts until the following day. -/
theorem checkOut_of_mem_dates {row : DateRow} (member : row ∈ standard.dates) :
    row.checkOut.IsDayAfter row.checkIn := by
  obtain ⟨checkIn, inside, rfl⟩ := List.mem_map.mp member
  have early : ∀ date ∈ firstCheckIn.run 90, date.year < 262142 := by decide +kernel
  have behind : checkIn.Before ⟨262142, 1, 1, by decide⟩ := .inl (early checkIn inside)
  exact Calendar.Date.next_isDayAfter behind

end Tables

/-! ## Drawing from one table -/

section OneTable

variable {ρ : Type} {rows : List ρ} {s later : Script} {words : List UInt64}

theorem run_drawPlace {place : Fin rows.length}
    (draw : IsDraw (UInt64.ofNat rows.length) words place) (takes : Takes s words later) :
    (drawPlace rows).run s = (.ok place, later) := by
  have drawn := Script.drawBelow_eq draw takes
  rw [drawPlace, dif_pos place.pos]
  change (Except.ok (Fin.mk (drawBelow (UInt64.ofNat rows.length) s).1 _),
    (drawBelow (UInt64.ofNat rows.length) s).2) = _
  simp only [drawn]

theorem exists_draw_place (stocked : rows ≠ []) (s : Script) :
    ∃ (words : List UInt64) (place : Fin rows.length) (later : Script),
      IsDraw (UInt64.ofNat rows.length) words place ∧ Takes s words later ∧
        (drawPlace rows).run s = (.ok place, later) := by
  obtain ⟨words, place, later, draw, takes, -⟩ :=
    Script.exists_draw (UInt64.ofNat rows.length) s
  have inside := draw.place_lt (List.length_pos_iff.mpr stocked)
  exact ⟨words, ⟨place, inside⟩, later, draw, takes, run_drawPlace draw takes⟩

/-- An action on a script that fails on an empty table, behind draws below the
sizes in front of the first zero. -/
def LacksRows {α : Type} (sizes : List Nat) (action : Drawing Script α) : Prop :=
  ∀ s, ∃ words places later, IsDraws (sizes.takeWhile (0 < ·)) words places ∧
    Takes s words later ∧ action.run s = (.error .emptyTable, later)

theorem LacksRows.of_empty {α : Type} (sizes : List Nat) (empty : rows = [])
    (next : Fin rows.length → Drawing Script α) :
    LacksRows (rows.length :: sizes) (drawPlace rows >>= next) := by
  subst empty
  exact fun s => ⟨[], [], s, .nil, .nil s, rfl⟩

theorem LacksRows.behind {α : Type} {sizes : List Nat} (stocked : rows ≠ [])
    {next : Fin rows.length → Drawing Script α} (lacks : ∀ place, LacksRows sizes (next place)) :
    LacksRows (rows.length :: sizes) (drawPlace rows >>= next) := by
  intro s
  obtain ⟨words, place, between, draw, takes, drawn⟩ := exists_draw_place stocked s
  obtain ⟨more, places, later, draws, takes', failed⟩ := lacks place between
  refine ⟨words ++ more, place :: places, later, ?_, takes.append takes', ?_⟩
  · rw [List.takeWhile_cons_of_pos (by simpa using List.length_pos_iff.mpr stocked)]
    exact .cons draw draws
  · rw [Wire.run_bind, drawn]
    exact failed

end OneTable

/-! ## Drawing from four tables -/

namespace Tables

/-- The sizes of the tables, in the order in which they are drawn from. -/
def sizes (tables : Tables) : List Nat :=
  [tables.guests.length, tables.rooms.length, tables.dates.length, tables.terms.length]

/-- The places in the tables, in the same order. -/
def Places.toList {tables : Tables} (places : tables.Places) : List Nat :=
  [places.guest, places.room, places.date, places.terms]

/-- What drawing a reservation from a script does. -/
structure Call (tables : Tables) (s : Script) (places : tables.Places) (later : Script) :
    Prop where
  composed : tables.draw s = .ok (tables.reservationAt places, later)
  /-- It makes four draws, each of which ends with the first word it accepts. -/
  taken : ∃ words, IsDraws tables.sizes words places.toList ∧ Takes s words later
  counted : s.drawn + 4 ≤ later.drawn
  /-- Of the words that are still ahead it takes all at most, and a zero for
  each draw. -/
  bounded : later.drawn + later.ahead.length ≤ s.drawn + s.ahead.length + 4
  whole : (tables.reservationAt places).FromRows tables

/-- Drawing reservations one after another, each from the script that the one
before it has left. -/
inductive Calls (tables : Tables) : Script → List tables.Places → Script → Prop
  | nil (s : Script) : Calls tables s [] s
  | cons {s between later : Script} {places : tables.Places} {more : List tables.Places}
      (call : tables.Call s places between) (calls : Calls tables between more later) :
      Calls tables s (places :: more) later

/-- What drawing several reservations from a script does. -/
structure Series (tables : Tables) (s : Script) (called : List tables.Places) (later : Script) :
    Prop where
  calls : tables.Calls s called later
  /-- The words of one call stand behind those of the call before it. -/
  taken : ∃ words, IsDraws (called.map fun _ => tables.sizes).flatten words
    (called.map Places.toList).flatten ∧ Takes s words later
  counted : s.drawn + 4 * called.length ≤ later.drawn
  bounded : later.drawn + later.ahead.length ≤ s.drawn + s.ahead.length + 4 * called.length
  /-- A call behind so many others that no words can be ahead draws the first
  row of each table. -/
  exhausted : ∀ k places, s.ahead.length ≤ 4 * k → called[k]? = some places →
    places.toList = [0, 0, 0, 0]

/-- What is left behind when no reservation can be drawn: the tables in front of
the first empty one were drawn from, and nothing else was. -/
structure FailedCall (tables : Tables) (s later : Script) : Prop where
  failed : tables.draw s = .error .emptyTable
  left : tables.drawPlaces.run s = (.error .emptyTable, later)
  taken : ∃ words places, IsDraws (tables.sizes.takeWhile (0 < ·)) words places ∧
    Takes s words later

variable {tables : Tables} {places : tables.Places} {s later : Script} {words : List UInt64}

theorem run_drawPlaces (draws : IsDraws tables.sizes words places.toList)
    (takes : Takes s words later) : tables.drawPlaces.run s = (.ok places, later) := by
  rcases places with ⟨guest, room, date, terms⟩
  rcases draws with _ | ⟨guestDraw, _ | ⟨roomDraw, _ | ⟨dateDraw, _ | ⟨termsDraw, _ | _⟩⟩⟩⟩
  obtain ⟨afterGuest, guestTakes, takes⟩ := takes.exists_of_append
  obtain ⟨afterRoom, roomTakes, takes⟩ := takes.exists_of_append
  obtain ⟨afterDate, dateTakes, takes⟩ := takes.exists_of_append
  rw [List.append_nil] at takes
  simp only [drawPlaces, Wire.run_bind, run_drawPlace guestDraw guestTakes,
    run_drawPlace roomDraw roomTakes, run_drawPlace dateDraw dateTakes,
    run_drawPlace termsDraw takes]
  rfl

theorem draw_eq (drawn : tables.drawPlaces.run s = (.ok places, later)) :
    tables.draw s = .ok (tables.reservationAt places, later) := by
  simp only [draw, drawn]

theorem exists_draws (stocked : tables.Stocked) (s : Script) :
    ∃ words, ∃ places : tables.Places, ∃ later, IsDraws tables.sizes words places.toList ∧
      Takes s words later ∧ words.length + later.ahead.length ≤ s.ahead.length + 4 := by
  obtain ⟨words, places, later, draws, takes, bound⟩ := Script.exists_draws tables.sizes s
  rcases draws with _ | ⟨guestDraw, _ | ⟨roomDraw, _ | ⟨dateDraw, _ | ⟨termsDraw, _ | _⟩⟩⟩⟩
  have guest := guestDraw.place_lt (List.length_pos_iff.mpr stocked.guests)
  have room := roomDraw.place_lt (List.length_pos_iff.mpr stocked.rooms)
  have date := dateDraw.place_lt (List.length_pos_iff.mpr stocked.dates)
  have terms := termsDraw.place_lt (List.length_pos_iff.mpr stocked.terms)
  exact ⟨_, ⟨⟨_, guest⟩, ⟨_, room⟩, ⟨_, date⟩, ⟨_, terms⟩⟩, later,
    .cons guestDraw (.cons roomDraw (.cons dateDraw (.cons termsDraw .nil))), takes, bound⟩

/-- Which places are drawn is settled by the words that are taken. -/
theorem run_drawPlaces_iff : tables.drawPlaces.run s = (.ok places, later) ↔
    ∃ words, IsDraws tables.sizes words places.toList ∧ Takes s words later := by
  constructor
  · intro drawn
    obtain ⟨words, others, after, draws, takes, -⟩ := exists_draws places.stocked s
    have same := drawn.symm.trans (run_drawPlaces draws takes)
    cases same
    exact ⟨words, draws, takes⟩
  · rintro ⟨words, draws, takes⟩
    exact run_drawPlaces draws takes

theorem exists_call (stocked : tables.Stocked) (s : Script) :
    ∃ places later, tables.Call s places later := by
  obtain ⟨words, places, later, draws, takes, bound⟩ := exists_draws stocked s
  have number : 4 ≤ words.length := draws.length_le
  have drawn : later.drawn = s.drawn + words.length := congrArg Script.drawn takes.script
  exact ⟨places, later,
    { composed := draw_eq (run_drawPlaces draws takes)
      taken := ⟨words, draws, takes⟩
      counted := by omega
      bounded := by omega
      whole := fromRows_reservationAt places }⟩

/-- Where the tables are not stocked, the first empty one ends the draws. -/
theorem lacksRows_drawPlaces (lacking : ¬ tables.Stocked) :
    LacksRows tables.sizes (tables.drawPlaces : Drawing Script tables.Places) := by
  unfold sizes drawPlaces
  by_cases guests : tables.guests = []
  · exact .of_empty _ guests _
  refine .behind guests fun guest => ?_
  by_cases rooms : tables.rooms = []
  · exact .of_empty _ rooms _
  refine .behind rooms fun room => ?_
  by_cases dates : tables.dates = []
  · exact .of_empty _ dates _
  refine .behind dates fun date => ?_
  by_cases terms : tables.terms = []
  · exact .of_empty _ terms _
  exact absurd ⟨guests, rooms, dates, terms⟩ lacking

theorem exists_failedCall (lacking : ¬ tables.Stocked) (s : Script) :
    ∃ later, tables.FailedCall s later := by
  obtain ⟨words, places, later, draws, takes, failed⟩ := lacksRows_drawPlaces lacking s
  refine ⟨later, ?_, failed, words, places, draws, takes⟩
  simp only [draw, failed]

/-! ## Drawing again and again -/

section Calls

variable {called : List tables.Places}

theorem exists_calls (stocked : tables.Stocked) (s : Script) (count : Nat) :
    ∃ called later, called.length = count ∧ tables.Calls s called later := by
  induction count generalizing s with
  | zero => exact ⟨[], s, rfl, .nil s⟩
  | succ count ih =>
      obtain ⟨places, between, call⟩ := exists_call stocked s
      obtain ⟨called, later, number, calls⟩ := ih between
      exact ⟨places :: called, later, congrArg Nat.succ number, .cons call calls⟩

theorem Calls.taken (calls : tables.Calls s called later) :
    ∃ words, IsDraws (called.map fun _ => tables.sizes).flatten words
        (called.map Places.toList).flatten ∧ Takes s words later := by
  induction calls with
  | nil s => exact ⟨[], .nil, .nil s⟩
  | cons call _ ih =>
      obtain ⟨words, draws, takes⟩ := call.taken
      obtain ⟨more, draws', takes'⟩ := ih
      exact ⟨words ++ more, draws.append draws', takes.append takes'⟩

theorem Calls.counted (calls : tables.Calls s called later) :
    s.drawn + 4 * called.length ≤ later.drawn := by
  induction calls with
  | nil => exact Nat.le_refl _
  | cons call _ ih =>
      have first := call.counted
      rw [List.length_cons]
      omega

theorem Calls.bounded (calls : tables.Calls s called later) :
    later.drawn + later.ahead.length ≤ s.drawn + s.ahead.length + 4 * called.length := by
  induction calls with
  | nil => exact Nat.le_refl _
  | cons call _ ih =>
      have first := call.bounded
      rw [List.length_cons]
      omega

/-- Every call takes at least four of the words ahead, as long as there are
any. -/
theorem Call.ahead_le (call : tables.Call s places later) :
    later.ahead.length ≤ s.ahead.length - 4 := by
  obtain ⟨words, draws, takes⟩ := call.taken
  have number : 4 ≤ words.length := draws.length_le
  rw [takes.script, List.length_drop]
  omega

theorem Calls.exhausted (calls : tables.Calls s called later) {k : Nat}
    (late : s.ahead.length ≤ 4 * k) (found : called[k]? = some places) :
    places.toList = [0, 0, 0, 0] := by
  induction calls generalizing k with
  | nil => cases found
  | cons call _ ih =>
      cases k with
      | zero =>
          cases found
          obtain ⟨words, draws, takes⟩ := call.taken
          exact Script.places_eq_zero (List.length_eq_zero_iff.mp (Nat.le_zero.mp late)) draws takes
      | succ k =>
          -- The first call leaves few enough words to those behind it.
          have fewer := call.ahead_le
          exact ih (by omega) found

theorem Calls.series (calls : tables.Calls s called later) : tables.Series s called later where
  calls := calls
  taken := calls.taken
  counted := calls.counted
  bounded := calls.bounded
  exhausted _ _ late found := calls.exhausted late found

end Calls

/-! ## What is drawn -/

theorem fromRows_of_draw {r : Reservation} (drawn : tables.draw s = .ok (r, later)) :
    r.FromRows tables := by
  obtain ⟨places, -, rfl⟩ := exists_of_draw drawn
  exact fromRows_reservationAt places

theorem fitsTogether_of_fromRows {r : Reservation} (made : r.FromRows standard) :
    r.FitsTogether where
  price := totalPrice_of_mem_terms made.terms
  stamps := made.updatedAt.symm
  stay := checkOut_of_mem_dates made.date

/-- **Drawing reservations ends, takes no more words than it must and keeps
rows whole.**  From stocked tables and any script a reservation is drawn, and
any number of them one after another: call by call the words up to those that
are accepted are taken, and once the script has run out the first rows are
drawn.  When a table is empty, drawing ends there and takes nothing for it.
What holds of all rows holds of what is drawn; from the standard tables
reservations that fit together are drawn. -/
theorem draws_end_with_whole_rows (tables : Tables) :
    (tables.Stocked → ∀ s, ∃ places later, tables.Call s places later) ∧
    (tables.Stocked → ∀ s count, ∃ called later, called.length = count ∧
      tables.Series s called later) ∧
    (¬ tables.Stocked → ∀ s, ∃ later, tables.FailedCall s later) ∧
    (∀ (s later : Script) r, tables.draw s = .ok (r, later) →
      ∀ (Guest : GuestRow → Prop) (Room : RoomRow → Prop) (Dates : DateRow → Prop)
        (Terms : TermsRow → Prop),
        (∀ row ∈ tables.guests, Guest row) → (∀ row ∈ tables.rooms, Room row) →
        (∀ row ∈ tables.dates, Dates row) → (∀ row ∈ tables.terms, Terms row) →
        Guest r.guestRow ∧ Room r.roomRow ∧ Dates r.dateRow ∧ Terms r.termsRow) ∧
    ∀ (s later : Script) r, standard.draw s = .ok (r, later) → r.FitsTogether := by
  refine ⟨fun stocked s => exists_call stocked s, fun stocked s count => ?_,
    fun lacking s => exists_failedCall lacking s, ?_, ?_⟩
  · obtain ⟨called, later, number, calls⟩ := exists_calls stocked s count
    exact ⟨called, later, number, calls.series⟩
  · intro s later r drawn Guest Room Dates Terms guests rooms dates terms
    exact (fromRows_of_draw drawn).holds guests rooms dates terms
  · intro s later r drawn
    exact fitsTogether_of_fromRows (fromRows_of_draw drawn)

/-- A script whose first word no table of thirty-five rows accepts, and tables
without rooms. -/
theorem draws_end_with_whole_rows_refused_word :
    (∃ places later, standard.Call (.ofList [0xFFFFFFFFFFFFFFFF, 7]) places later) ∧
    (∃ called later, called.length = 2 ∧
      standard.Series (.ofList [0xFFFFFFFFFFFFFFFF, 7]) called later) ∧
    (∃ later, { standard with rooms := [] }.FailedCall (.ofList [0xFFFFFFFFFFFFFFFF, 7]) later) := by
  have lacking : ¬ ({ standard with rooms := [] } : Tables).Stocked := fun stocked =>
    stocked.rooms rfl
  obtain ⟨once, again, -⟩ := draws_end_with_whole_rows standard
  obtain ⟨-, -, failed, -⟩ := draws_end_with_whole_rows { standard with rooms := [] }
  exact ⟨once standard_stocked _, again standard_stocked _ 2, failed lacking _⟩

end Tables

end ReservationLoad

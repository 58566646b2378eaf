import ReservationLoad.Proofs.Chance.Uniform
import ReservationLoad.Proofs.Reservation.Draws

/-!
# Reservations are drawn uniformly

Four words that draw a row each make up a reservation, and every choice of four
rows is made by equally many quadruples of words: as many as the product of what
each table has for one of its rows.  Words that are refused on the way do not
change which rows are drawn.
-/

namespace ReservationLoad.Tables

open Chance

variable {tables : Tables} {places : tables.Places}

/-- A word for each table. -/
abbrev Words := UInt64 × UInt64 × UInt64 × UInt64

/-- The words, in the order in which the tables are drawn from. -/
def Words.toList (words : Words) : List UInt64 :=
  [words.1, words.2.1, words.2.2.1, words.2.2.2]

/-- The words of a script are all taken when they are the words of the draws. -/
theorem run_ofList_iff (words : List UInt64) :
    tables.drawPlaces.run (Script.ofList words) = (.ok places, ⟨[], words.length⟩) ↔
      IsDraws tables.sizes words places.toList := by
  have all : Takes (Script.ofList words) words ⟨[], words.length⟩ := by
    have takes := Takes.of_script words [] 0
    rw [List.append_nil, Nat.zero_add] at takes
    exact takes
  rw [run_drawPlaces_iff]
  constructor
  · rintro ⟨taken, draws, takes⟩
    have number : words.length = 0 + taken.length := congrArg Script.drawn takes.script
    rw [Nat.zero_add] at number
    obtain ⟨rfl, -⟩ := all.unique takes number
    exact draws
  · intro draws
    exact ⟨words, draws, all⟩

/-- Of four words each draws a row from its table, whatever the others draw. -/
theorem isDraws_toList_iff (words : Words) :
    IsDraws tables.sizes words.toList places.toList ↔
      IsDraw (.ofNat tables.guests.length) [words.1] places.guest ∧
      IsDraw (.ofNat tables.rooms.length) [words.2.1] places.room ∧
      IsDraw (.ofNat tables.dates.length) [words.2.2.1] places.date ∧
      IsDraw (.ofNat tables.terms.length) [words.2.2.2] places.terms := by
  have none : IsDraws [] [] [] := .nil
  rw [sizes, Words.toList, Places.toList, IsDraws.cons_iff rfl, IsDraws.cons_iff rfl,
    IsDraws.cons_iff rfl, IsDraws.cons_iff rfl, and_iff_left none]

/-- The number of words that draw one row of a table. -/
theorem ncard_row {ρ : Type} {rows : List ρ} (small : rows.length < UInt64.size)
    (place : Fin rows.length) :
    {word | IsDraw (.ofNat rows.length) [word] place}.ncard =
      2 ^ leadingZeros (.ofNat rows.length) := by
  refine ncard_isDraw ?_
  rw [UInt64.toNat_ofNat_of_lt' small]
  exact place.isLt

/-- The quadruples that draw a choice of rows are those whose words draw one
row each. -/
theorem ncard_quadruples (small : ∀ size ∈ tables.sizes, size < UInt64.size)
    (places : tables.Places) :
    {words : Words | IsDraws tables.sizes words.toList places.toList}.ncard =
      2 ^ (leadingZeros (.ofNat tables.guests.length) +
        leadingZeros (.ofNat tables.rooms.length) +
        leadingZeros (.ofNat tables.dates.length) +
        leadingZeros (.ofNat tables.terms.length)) := by
  obtain ⟨guests, rooms, dates, terms⟩ :
      tables.guests.length < UInt64.size ∧ tables.rooms.length < UInt64.size ∧
        tables.dates.length < UInt64.size ∧ tables.terms.length < UInt64.size := by
    simpa [sizes] using small
  have apart : {words : Words | IsDraws tables.sizes words.toList places.toList} =
      {word | IsDraw (.ofNat tables.guests.length) [word] places.guest} ×ˢ
        {word | IsDraw (.ofNat tables.rooms.length) [word] places.room} ×ˢ
        {word | IsDraw (.ofNat tables.dates.length) [word] places.date} ×ˢ
        {word | IsDraw (.ofNat tables.terms.length) [word] places.terms} :=
    Set.ext isDraws_toList_iff
  rw [apart, Set.ncard_prod, Set.ncard_prod, Set.ncard_prod, ncard_row guests, ncard_row rooms,
    ncard_row dates, ncard_row terms, Nat.pow_add, Nat.pow_add, Nat.pow_add, Nat.mul_assoc,
    Nat.mul_assoc]

theorem exists_words {kept : List UInt64} (four : kept.length = tables.sizes.length) :
    ∃ words : Words, words.toList = kept := by
  rcases kept with _ | ⟨guest, _ | ⟨room, _ | ⟨date, _ | ⟨terms, _ | _⟩⟩⟩⟩ <;> cases four
  exact ⟨⟨guest, room, date, terms⟩, rfl⟩

/-- **Every choice of rows is drawn by equally many quadruples of words, and
refused words do not matter.**  The words of such a quadruple are accepted one
after another.  Whatever script a choice of rows is drawn from, its accepted
words draw the same by themselves, and they still do with refused words between
them. -/
theorem row_draws_uniform (tables : Tables) (small : ∀ size ∈ tables.sizes, size < UInt64.size)
    (places : tables.Places) :
    {words : Words | tables.drawPlaces.run (Script.ofList words.toList) =
        (.ok places, ⟨[], 4⟩)}.ncard =
      2 ^ (leadingZeros (.ofNat tables.guests.length) +
        leadingZeros (.ofNat tables.rooms.length) +
        leadingZeros (.ofNat tables.dates.length) +
        leadingZeros (.ofNat tables.terms.length)) ∧
    (∀ s later : Script, tables.drawPlaces.run s = (.ok places, later) ↔
      ∃ (accepted : Words) (words : List UInt64),
        Accepted tables.sizes words accepted.toList ∧ Takes s words later ∧
        tables.drawPlaces.run (Script.ofList accepted.toList) = (.ok places, ⟨[], 4⟩)) ∧
    ∀ s later : Script, tables.drawPlaces.run s = (.ok places, later) →
      tables.draw s = .ok (tables.reservationAt places, later) := by
  have alone (words : Words) :
      tables.drawPlaces.run (Script.ofList words.toList) = (.ok places, ⟨[], 4⟩) ↔
        IsDraws tables.sizes words.toList places.toList := run_ofList_iff words.toList
  refine ⟨?_, fun s later => ?_, fun s later drawn => draw_eq drawn⟩
  · simp only [alone]
    exact ncard_quadruples small places
  · rw [run_drawPlaces_iff]
    constructor
    · rintro ⟨words, draws, takes⟩
      obtain ⟨kept, parts, draws⟩ := Accepted.exists_of_draws draws
      obtain ⟨accepted, rfl⟩ := exists_words parts.length_kept
      exact ⟨accepted, words, parts, takes, (alone accepted).mpr draws⟩
    · rintro ⟨accepted, words, parts, takes, drawn⟩
      exact ⟨words, parts.draws ((alone accepted).mp drawn), takes⟩

/-- Of 2 ^ 256 quadruples, 2 ^ 230 draw the first row of every standard
table. -/
theorem row_draws_uniform_standard :
    (∀ size ∈ standard.sizes, size < UInt64.size) ∧
    {words : Words | standard.drawPlaces.run (Script.ofList words.toList) =
        (.ok ⟨⟨0, by decide⟩, ⟨0, by decide⟩, ⟨0, by decide⟩, ⟨0, by decide⟩⟩, ⟨[], 4⟩)}.ncard =
      2 ^ 230 := by
  have small : ∀ size ∈ standard.sizes, size < UInt64.size := by decide
  exact ⟨small, (row_draws_uniform standard small _).1⟩

end ReservationLoad.Tables

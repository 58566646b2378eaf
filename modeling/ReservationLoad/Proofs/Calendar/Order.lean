import Mathlib.Tactic.IntervalCases
import ReservationLoad.Proofs.Calendar.Date

/-!
# The order of the days

The day that follows a day is the next one in the order of year, month and day:
there is no day of the calendar between the two.
-/

namespace ReservationLoad.Calendar.Date

/-- The order of the days: by year, then by month, then by day. -/
def Before (first second : Date) : Prop :=
  first.year < second.year ∨ first.year = second.year ∧
    (first.month < second.month ∨ first.month = second.month ∧ first.day < second.day)

/-- The first day behind a day, with none between them. -/
structure IsDayAfter (second first : Date) : Prop where
  before : first.Before second
  nearest : ∀ day : Date, first.Before day → ¬ day.Before second

theorem isDay_iff {year : Int} {month day : Nat} :
    Calendar.isDay year month day = true ↔
      -262143 ≤ year ∧ year ≤ 262142 ∧ 1 ≤ day ∧ day ≤ daysInMonth year month := by
  simp only [Calendar.isDay, Bool.and_eq_true, decide_eq_true_eq, and_assoc]

theorem month_bounds (date : Date) : 1 ≤ date.month ∧ date.month ≤ 12 := by
  obtain ⟨-, -, some, last⟩ := isDay_iff.mp date.isDay
  exact month_of_daysInMonth_pos (Nat.le_trans some last)

theorem daysInMonth_pos (year : Int) {month : Nat} (some : 1 ≤ month) (last : month ≤ 12) :
    1 ≤ daysInMonth year month := by
  interval_cases month
  all_goals simp only [daysInMonth]
  any_goals decide
  split <;> decide

/-- No day of the same month is behind the last. -/
theorem day_le_of_last {date : Date}
    (last : ¬ Calendar.isDay date.year date.month (date.day + 1) = true) (day : Date)
    (year : day.year = date.year) (month : day.month = date.month) : day.day ≤ date.day := by
  obtain ⟨low, high, some, _⟩ := isDay_iff.mp date.isDay
  obtain ⟨-, -, -, bound⟩ := isDay_iff.mp day.isDay
  rw [year, month] at bound
  rw [isDay_iff] at last
  omega

/-- Where there is a later day, the following day is the first of them. -/
theorem next_isDayAfter {date later : Date} (behind : date.Before later) :
    date.next.IsDayAfter date := by
  obtain ⟨low, high, _⟩ := isDay_iff.mp date.isDay
  obtain ⟨monthSome, monthLast⟩ := date.month_bounds
  -- The following day is in the same month, in the same year or in the next one.
  by_cases sameMonth : Calendar.isDay date.year date.month (date.day + 1) = true
  · have next : date.next = ⟨date.year, date.month, date.day + 1, sameMonth⟩ := by
      simp [Date.next, make?, sameMonth]
    rw [next]
    refine ⟨by simp [Before], ?_⟩
    intro day after before
    simp only [Before] at after before
    omega
  by_cases sameYear : Calendar.isDay date.year (date.month + 1) 1 = true
  · have next : date.next = ⟨date.year, date.month + 1, 1, sameYear⟩ := by
      simp [Date.next, make?, sameMonth, sameYear]
    rw [next]
    refine ⟨by simp [Before], ?_⟩
    intro day after before
    have within := day_le_of_last sameMonth day
    obtain ⟨-, -, first, -⟩ := isDay_iff.mp day.isDay
    simp only [Before] at after before
    omega
  have december : date.month = 12 := by
    rcases Nat.eq_or_lt_of_le monthLast with twelfth | sooner
    · exact twelfth
    · have days := daysInMonth_pos date.year (Nat.le_add_left 1 date.month) sooner
      exact absurd (isDay_iff.mpr ⟨low, high, Nat.le_refl 1, days⟩) sameYear
  have nextYear : Calendar.isDay (date.year + 1) 1 1 = true := by
    have days := daysInMonth_pos (date.year + 1) (Nat.le_refl 1) (by decide)
    have within := day_le_of_last sameMonth later
    obtain ⟨-, last, -⟩ := isDay_iff.mp later.isDay
    obtain ⟨-, month⟩ := later.month_bounds
    refine isDay_iff.mpr ⟨by omega, ?_, Nat.le_refl 1, days⟩
    simp only [Before] at behind
    omega
  have next : date.next = ⟨date.year + 1, 1, 1, nextYear⟩ := by
    simp [Date.next, make?, sameMonth, sameYear, nextYear]
  rw [next]
  refine ⟨by simp [Before], ?_⟩
  intro day after before
  have within := day_le_of_last sameMonth day
  obtain ⟨-, -, first, -⟩ := isDay_iff.mp day.isDay
  obtain ⟨one, last⟩ := day.month_bounds
  simp only [Before] at after before
  omega

end ReservationLoad.Calendar.Date

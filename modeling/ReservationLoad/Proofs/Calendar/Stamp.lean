import ReservationLoad.Calendar.Instant
import ReservationLoad.Proofs.Calendar.Date

/-!
# The second that a file name tells

A file name tells year, month and day and the time of day in seconds, and all of
that can be computed back: two readings of the clock give the same name if and only
if they lie in the same second.
-/

namespace ReservationLoad.Calendar

/-! ## The number of a day -/

/-- The number of a day, counted from the first of March of the year zero. -/
def dayNumber (year month day : Nat) : Nat :=
  let yearFromMarch := if month ≤ 2 then year - 1 else year
  let monthFromMarch := if month ≤ 2 then month + 9 else month - 3
  let yearOfCycle := yearFromMarch % 400
  yearFromMarch / 400 * 146097 + (365 * yearOfCycle + yearOfCycle / 4 - yearOfCycle / 100) +
    ((153 * monthFromMarch + 2) / 5 + (day - 1))

/-- January and February count for the year before. -/
theorem dayNumber_fromMarch {year cycle monthFromMarch : Nat} (dayOfMonth : Nat)
    (small : year < 400) (twelve : monthFromMarch < 12) :
    dayNumber
        (year + cycle * 400 +
          if (if monthFromMarch < 10 then monthFromMarch + 3 else monthFromMarch - 9) ≤ 2 then 1
          else 0)
        (if monthFromMarch < 10 then monthFromMarch + 3 else monthFromMarch - 9)
        (dayOfMonth + 1) =
      cycle * 146097 + (365 * year + year / 4 - year / 100) +
        ((153 * monthFromMarch + 2) / 5 + dayOfMonth) := by
  have ofCycle : (year + cycle * 400) % 400 = year := by omega
  have cycles : (year + cycle * 400) / 400 = cycle := by omega
  unfold dayNumber
  by_cases early : monthFromMarch < 10
  · have spring : ¬ monthFromMarch + 3 ≤ 2 := by omega
    simp only [if_pos early, if_neg spring, Nat.add_zero, Nat.add_sub_cancel, ofCycle, cycles]
  · have winter : monthFromMarch - 9 ≤ 2 := by omega
    have back : monthFromMarch - 9 + 9 = monthFromMarch := by omega
    simp only [if_neg early, if_pos winter, Nat.add_sub_cancel, ofCycle, cycles, back]

/-- The year that is computed for a day of a cycle begins at that day or before it,
and less than a year and a day before. -/
theorem yearOfCycle_bounds {day year : Nat} (inside : day < 146097)
    (same : year = (day - day / 1460 + day / 36524 - day / 146096) / 365) :
    year < 400 ∧ 365 * year + year / 4 - year / 100 ≤ day ∧
      day ≤ 365 * year + year / 4 - year / 100 + 365 := by
  -- In each of the four centuries, and on the last day of the cycle, this is linear.
  have century : day / 36524 = 0 ∨ day / 36524 = 1 ∨ day / 36524 = 2 ∨ day / 36524 = 3 ∨
      day / 36524 = 4 := by omega
  have last : day / 146096 = 0 ∨ day / 146096 = 1 := by omega
  have small : year < 400 := by omega
  have hundreds : year / 100 = 0 ∨ year / 100 = 1 ∨ year / 100 = 2 ∨ year / 100 = 3 := by omega
  rcases century with c | c | c | c | c <;> rcases hundreds with h | h | h | h <;> omega

namespace Instant

/-- The parts of a day, and how they are put together again. -/
theorem exists_civil (i : Instant) : ∃ cycle year monthFromMarch dayOfMonth,
    year < 400 ∧ monthFromMarch < 12 ∧ dayOfMonth < 31 ∧
    i.civil = (year + cycle * 400 +
        if (if monthFromMarch < 10 then monthFromMarch + 3 else monthFromMarch - 9) ≤ 2 then 1
        else 0,
      if monthFromMarch < 10 then monthFromMarch + 3 else monthFromMarch - 9, dayOfMonth + 1) ∧
    i.seconds / 86400 + 719468 = cycle * 146097 + (365 * year + year / 4 - year / 100) +
      ((153 * monthFromMarch + 2) / 5 + dayOfMonth) := by
  unfold civil
  simp only
  generalize i.seconds / 86400 + 719468 = day
  have inside : day % 146097 < 146097 := Nat.mod_lt _ (by decide)
  have parts := Nat.div_add_mod day 146097
  generalize day % 146097 = dayOfCycle at *
  generalize day / 146097 = cycle at *
  generalize same : (dayOfCycle - dayOfCycle / 1460 + dayOfCycle / 36524 - dayOfCycle / 146096) /
    365 = year
  obtain ⟨small, begun, within⟩ := yearOfCycle_bounds inside same.symm
  generalize rest : dayOfCycle - (365 * year + year / 4 - year / 100) = dayOfYear
  generalize month : (5 * dayOfYear + 2) / 153 = monthFromMarch
  refine ⟨cycle, year, monthFromMarch, dayOfYear - (153 * monthFromMarch + 2) / 5, small, ?_, ?_,
    rfl, ?_⟩ <;> omega

/-- Year, month and day tell the day. -/
theorem dayNumber_civil (i : Instant) :
    dayNumber i.civil.1 i.civil.2.1 i.civil.2.2 = i.seconds / 86400 + 719468 := by
  obtain ⟨cycle, year, monthFromMarch, dayOfMonth, small, twelve, -, parts, day⟩ := i.exists_civil
  rw [parts, day]
  exact dayNumber_fromMarch dayOfMonth small twelve

/-- Month and day have two digits at most. -/
theorem civil_lt (i : Instant) : i.civil.2.1 < 100 ∧ i.civil.2.2 < 100 := by
  obtain ⟨cycle, year, monthFromMarch, dayOfMonth, -, twelve, days, parts, -⟩ := i.exists_civil
  rw [parts]
  simp only
  constructor
  · split <;> omega
  · omega

end Instant

/-! ## Digits -/

namespace Date

theorem twoDigits_injective : Function.Injective twoDigits := by
  intro m n same
  have values := congrArg (Nat.ofDigitChars 10 · 0) same
  simpa [twoDigits] using values

theorem isDigit_of_mem_twoDigits {n : Nat} {c : Char} (member : c ∈ twoDigits n) :
    c.isDigit = true :=
  Decimal.isDigit_of_mem_padLeft (fun _ => Decimal.isDigit_of_mem_ofNat) member

theorem length_twoDigits {n : Nat} (small : n < 100) : (twoDigits n).length = 2 :=
  length_padLeft_ofNat (by decide) small

/-- A number of two digits at the end of a text. -/
theorem append_twoDigits_inj {front front' : List Char} {m n : Nat} (small : m < 100)
    (small' : n < 100) (same : front ++ twoDigits m = front' ++ twoDigits n) :
    front = front' ∧ m = n := by
  obtain ⟨fronts, digits⟩ :=
    List.append_inj' same ((length_twoDigits small).trans (length_twoDigits small').symm)
  exact ⟨fronts, twoDigits_injective digits⟩

/-- The text of a year that is not before the year zero. -/
theorem yearText_natCast (k : Nat) : yearText k =
    if 9999 < k then '+' :: Decimal.padLeft 4 (Decimal.ofNat k)
    else Decimal.padLeft 4 (Decimal.ofNat k) := by
  have large : ((9999 : Int) < k) ↔ 9999 < k := by omega
  rw [yearText, if_neg (Int.not_lt.mpr (Int.natCast_nonneg k)), Int.natAbs_natCast]
  simp only [large]

/-- Years are told apart by their sign and their digits. -/
theorem yearText_injective {m n : Nat} (same : yearText m = yearText n) : m = n := by
  have value : ∀ {j k : Nat}, Decimal.padLeft 4 (Decimal.ofNat j) =
      Decimal.padLeft 4 (Decimal.ofNat k) → j = k := by
    intro j k padded
    have values := congrArg (Nat.ofDigitChars 10 · 0) padded
    simpa using values
  have unsigned : ∀ (k : Nat) (tail : List Char),
      Decimal.padLeft 4 (Decimal.ofNat k) ≠ '+' :: tail := by
    intro k tail signed
    obtain ⟨first, more, whole, digit⟩ := padLeft_eq_cons 4 k
    cases whole.symm.trans signed
    cases digit
  rw [yearText_natCast, yearText_natCast] at same
  split at same <;> split at same
  · exact value (List.tail_eq_of_cons_eq same)
  · exact absurd same.symm (unsigned n _)
  · exact absurd same (unsigned m _)
  · exact value same

end Date

/-! ## The stamp of a file -/

namespace Instant

open Date

/-- The characters of the stamp, in which every part but the year has two digits. -/
def stampChars (i : Instant) : List Char :=
  yearText i.civil.1 ++ twoDigits i.civil.2.1 ++ twoDigits i.civil.2.2 ++
    '_' :: twoDigits (i.secondOfDay / 3600) ++ twoDigits (i.secondOfDay / 60 % 60) ++
      twoDigits (i.secondOfDay % 60)

theorem fileStamp_eq (i : Instant) : i.fileStamp = String.ofList i.stampChars := rfl

/-- The stamp has digits, a hyphen that lies low, and the sign of a late year. -/
theorem mem_stampChars {i : Instant} {c : Char} (member : c ∈ i.stampChars) :
    c.isDigit = true ∨ c = '_' ∨ c = '+' := by
  have year : ∀ {k : Nat}, c ∈ yearText k → c.isDigit = true ∨ c = '+' := by
    intro k inside
    rw [yearText_natCast] at inside
    split at inside
    · rcases List.mem_cons.mp inside with sign | digit
      · exact .inr sign
      · exact .inl (Decimal.isDigit_of_mem_padLeft (fun _ => Decimal.isDigit_of_mem_ofNat) digit)
    · exact .inl (Decimal.isDigit_of_mem_padLeft (fun _ => Decimal.isDigit_of_mem_ofNat) inside)
  unfold stampChars at member
  simp only [List.mem_append, List.mem_cons] at member
  rcases member with ((((inside | inside) | inside) | rfl | inside) | inside) | inside
  · exact (year inside).imp_right .inr
  · exact .inl (isDigit_of_mem_twoDigits inside)
  · exact .inl (isDigit_of_mem_twoDigits inside)
  · exact .inr (.inl rfl)
  · exact .inl (isDigit_of_mem_twoDigits inside)
  · exact .inl (isDigit_of_mem_twoDigits inside)
  · exact .inl (isDigit_of_mem_twoDigits inside)

/-- The stamp of a file tells the second, and nothing else. -/
theorem fileStamp_eq_iff {i j : Instant} : i.fileStamp = j.fileStamp ↔ i.seconds = j.seconds := by
  constructor
  · intro same
    rw [fileStamp_eq, fileStamp_eq] at same
    have chars := String.ofList_injective same
    unfold stampChars at chars
    have time : ∀ k : Instant, k.secondOfDay / 3600 < 100 ∧ k.secondOfDay / 60 % 60 < 100 ∧
        k.secondOfDay % 60 < 100 := by
      intro k
      have bound : k.secondOfDay < 86400 := Nat.mod_lt _ (by decide)
      omega
    obtain ⟨chars, second⟩ := append_twoDigits_inj (time i).2.2 (time j).2.2 chars
    obtain ⟨chars, minute⟩ := append_twoDigits_inj (time i).2.1 (time j).2.1 chars
    obtain ⟨chars, hour⟩ := List.append_inj' chars (congrArg Nat.succ
      ((length_twoDigits (time i).1).trans (length_twoDigits (time j).1).symm))
    have hour := twoDigits_injective (List.tail_eq_of_cons_eq hour)
    obtain ⟨chars, day⟩ := append_twoDigits_inj i.civil_lt.2 j.civil_lt.2 chars
    obtain ⟨chars, month⟩ := append_twoDigits_inj i.civil_lt.1 j.civil_lt.1 chars
    have year := yearText_injective chars
    have days := i.dayNumber_civil
    rw [year, month, day, j.dayNumber_civil] at days
    unfold secondOfDay at hour minute second
    omega
  · intro same
    unfold fileStamp civil secondOfDay
    rw [same]

end Instant

end ReservationLoad.Calendar

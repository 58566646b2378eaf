import ReservationLoad.Proofs.Binary64.Sorting
import ReservationLoad.Proofs.Wire.Records
import ReservationLoad.Report.Collector

/-!
# Summaries and their samples

How many samples a summary speaks of, when it has figures at all, and when there
is a summary: in arithmetic that wraps around always, and in checked arithmetic as
long as the greatest of the products that lead to percentiles is a word.
-/

namespace ReservationLoad

open Wire Binary64

/-- Can the percentiles of so many samples be placed?  The last of them has the greatest
product, which checked arithmetic needs to be a word. -/
def Arithmetic.Places (arithmetic : Arithmetic) (count : Nat) : Prop :=
  arithmetic = .wrapping ∨ 990 * count < UInt64.size

variable {arithmetic : Arithmetic} {count : Nat} {perMille : UInt64} {samples : List Binary64}

/-! ## Percentiles -/

/-- The product of a number of samples and thousandths. -/
theorem mul_ofNat (few : count < UInt64.size) :
    arithmetic.mul (UInt64.ofNat count) perMille =
      arithmetic.settle .multiplication (count * perMille.toNat) := by
  rw [Arithmetic.mul, UInt64.toNat_ofNat_of_lt' few]

/-- There is a percentile unless the product that leads to it is no word and that is
checked. -/
theorem exists_percentile_iff (few : samples.length < UInt64.size) :
    (∃ x, percentile arithmetic samples perMille = .ok x) ↔
      arithmetic = .wrapping ∨ samples.length * perMille.toNat < UInt64.size := by
  rw [percentile, percentileIndex, mul_ofNat few,
    ← Arithmetic.exists_settle_iff .multiplication]
  constructor
  · rintro ⟨x, found⟩
    obtain ⟨index, indexed, -⟩ := exists_of_map_eq_ok found
    obtain ⟨product, settled, -⟩ := exists_of_map_eq_ok indexed
    exact ⟨product, settled⟩
  · rintro ⟨product, settled⟩
    rw [settled]
    exact ⟨_, rfl⟩

namespace LatencySummary

variable {figures : LatencySummary} {latency : Option LatencySummary}

/-- What the figures of an ascending list are. -/
theorem figures_of_ofAscending? (summed : ofAscending? arithmetic samples = .ok (some figures)) :
    ∃ inside : 0 < samples.length,
      figures.count = UInt64.ofNat samples.length ∧
      figures.least = samples[0] ∧
      figures.greatest = samples[samples.length - 1] ∧
      figures.deviation = deviationOf figures.mean samples ∧
      percentile arithmetic samples 500 = .ok figures.p50 ∧
      percentile arithmetic samples 950 = .ok figures.p95 ∧
      percentile arithmetic samples 990 = .ok figures.p99 := by
  cases samples with
  | nil => cases summed
  | cons first more =>
      obtain ⟨p50, half, summed⟩ := exists_of_bind_eq_ok summed
      obtain ⟨p95, most, summed⟩ := exists_of_bind_eq_ok summed
      obtain ⟨p99, nearlyAll, summed⟩ := exists_of_bind_eq_ok summed
      cases summed
      exact ⟨Nat.zero_lt_succ _, rfl, rfl, List.getLast_eq_getElem _, rfl, half, most, nearlyAll⟩

/-- There are figures of a list of samples just when it has samples. -/
theorem eq_none_iff_of_ofAscending? (summed : ofAscending? arithmetic samples = .ok latency) :
    latency = none ↔ samples = [] := by
  cases samples with
  | nil =>
      cases summed
      exact iff_of_true rfl rfl
  | cons first more =>
      refine iff_of_false ?_ (List.cons_ne_nil first more)
      rintro rfl
      obtain ⟨p50, -, summed⟩ := exists_of_bind_eq_ok summed
      obtain ⟨p95, -, summed⟩ := exists_of_bind_eq_ok summed
      obtain ⟨p99, -, summed⟩ := exists_of_bind_eq_ok summed
      cases summed

/-- The last percentile has the greatest product. -/
theorem exists_ofAscending?_iff (few : samples.length < UInt64.size) :
    (∃ latency, ofAscending? arithmetic samples = .ok latency) ↔
      arithmetic.Places samples.length := by
  cases samples with
  | nil => exact iff_of_true ⟨none, rfl⟩ (.inr (by decide))
  | cons first more =>
      have products : ∀ perMille : UInt64, perMille.toNat ≤ 990 →
          arithmetic.Places (first :: more).length →
          ∃ x, percentile arithmetic (first :: more) perMille = .ok x := by
        intro perMille most
        rw [exists_percentile_iff few]
        refine Or.imp_right fun fits => ?_
        exact Nat.lt_of_le_of_lt (Nat.mul_comm 990 _ ▸ Nat.mul_le_mul_left _ most) fits
      constructor
      · rintro ⟨latency, summed⟩
        obtain ⟨p50, -, summed⟩ := exists_of_bind_eq_ok summed
        obtain ⟨p95, -, summed⟩ := exists_of_bind_eq_ok summed
        obtain ⟨p99, nearlyAll, -⟩ := exists_of_bind_eq_ok summed
        rw [Arithmetic.Places, Nat.mul_comm]
        exact (exists_percentile_iff few).mp ⟨p99, nearlyAll⟩
      · intro fits
        obtain ⟨p50, half⟩ := products 500 (by decide) fits
        obtain ⟨p95, most⟩ := products 950 (by decide) fits
        obtain ⟨p99, nearlyAll⟩ := products 990 (by decide) fits
        rw [ofAscending?]
        simp only [half, most, nearlyAll, ok_bind]
        exact ⟨_, rfl⟩

end LatencySummary

namespace Collector

variable {c : Collector} {span : Calendar.Span} {total : UInt64} {report : Report}

/-- What a report is made of. -/
theorem eq_of_summarize (done : c.summarize arithmetic span total = .ok report) :
    LatencySummary.ofAscending? arithmetic (sortAscending c.samples) = .ok report.latency ∧
      report = c.reportWith span total report.latency := by
  obtain ⟨latency, summed, rfl⟩ := exists_of_map_eq_ok done
  exact ⟨summed, rfl⟩

/-- There is a report unless its percentiles cannot be placed. -/
theorem exists_summarize_iff (few : c.samples.length < UInt64.size) :
    (∃ report, c.summarize arithmetic span total = .ok report) ↔
      arithmetic.Places c.samples.length := by
  rw [← length_sortAscending] at few ⊢
  rw [← LatencySummary.exists_ofAscending?_iff few]
  constructor
  · rintro ⟨report, done⟩
    exact ⟨report.latency, (eq_of_summarize done).1⟩
  · rintro ⟨latency, summed⟩
    rw [summarize, summed]
    exact ⟨_, rfl⟩

/-- A report has figures unless nothing was recorded. -/
theorem latency_eq_none_iff (done : c.summarize arithmetic span total = .ok report) :
    report.latency = none ↔ c.samples = [] := by
  rw [LatencySummary.eq_none_iff_of_ofAscending? (eq_of_summarize done).1,
    ← List.length_eq_zero_iff, length_sortAscending, List.length_eq_zero_iff]

theorem count_latency {figures : LatencySummary}
    (done : c.summarize arithmetic span total = .ok report)
    (summed : report.latency = some figures) :
    figures.count = UInt64.ofNat c.samples.length := by
  have made := (eq_of_summarize done).1
  rw [summed] at made
  obtain ⟨-, count, -⟩ := LatencySummary.figures_of_ofAscending? made
  rw [count, length_sortAscending]

end Collector

end ReservationLoad

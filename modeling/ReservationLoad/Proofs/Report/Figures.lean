import ReservationLoad.Proofs.Binary64.OrderStatistics
import ReservationLoad.Proofs.Report.Recording

/-!
# The figures of a report are order statistics

The least and the greatest figure of a report and its three percentiles are
samples that were recorded, at places that are settled by the number of samples
alone.  Neither the 64 bits in which a place is computed nor the cut to the last
sample ever decides, as long as a thousand times the number of samples is a
64-bit word.
-/

namespace ReservationLoad

open Binary64 Wire

/-! ## The place of a percentile -/

section Places

variable {arithmetic : Arithmetic} {count : Nat} {perMille : UInt64} {ascending : List Binary64}

/-- A product that is a word leads to the exact place. -/
theorem percentileIndex_of_lt (few : count < UInt64.size)
    (fits : count * perMille.toNat < UInt64.size) :
    percentileIndex arithmetic count perMille = .ok (count * perMille.toNat / 1000) := by
  rw [percentileIndex, mul_ofNat few, Arithmetic.settle_of_lt fits, map_ok, UInt64.toNat_div,
    UInt64.toNat_ofNat_of_lt' fits]
  rfl

/-- The place of a percentile below the thousandth thousandth lies inside the
samples. -/
theorem percentileIndex_of_lt_thousand (some : 0 < count) (small : 1000 * count < UInt64.size)
    (thousandths : perMille.toNat < 1000) :
    percentileIndex arithmetic count perMille = .ok (count * perMille.toNat / 1000) ∧
      count * perMille.toNat / 1000 < count := by
  have below : count * perMille.toNat < 1000 * count := by
    rw [Nat.mul_comm 1000]
    exact Nat.mul_lt_mul_of_pos_left thousandths some
  exact ⟨percentileIndex_of_lt (by omega) (Nat.lt_trans below small), Nat.div_lt_of_lt_mul below⟩

/-- A percentile is the sample at its place, which is cut to the last one. -/
theorem percentile_eq_getElem? {index : Nat} (some : 0 < ascending.length)
    (indexed : percentileIndex arithmetic ascending.length perMille = .ok index) :
    ∃ x, percentile arithmetic ascending perMille = .ok x ∧
      ascending[min index (ascending.length - 1)]? = .some x := by
  have inside : min index (ascending.length - 1) < ascending.length := by omega
  rw [percentile, indexed, map_ok, List.getD_eq_getElem?_getD, List.getElem?_eq_getElem inside]
  exact ⟨_, rfl, rfl⟩

theorem isOrderStatistic_percentile {samples : List Binary64} {x : Binary64}
    (some : 0 < samples.length) (small : 1000 * samples.length < UInt64.size)
    (thousandths : perMille.toNat < 1000)
    (found : percentile arithmetic (sortAscending samples) perMille = .ok x) :
    IsOrderStatistic samples (samples.length * perMille.toNat / 1000) x := by
  have length := length_sortAscending samples
  obtain ⟨indexed, inside⟩ :=
    @percentileIndex_of_lt_thousand arithmetic _ _ some small thousandths
  rw [← length] at some indexed inside ⊢
  obtain ⟨y, found', atPlace⟩ := percentile_eq_getElem? some indexed
  cases found'.symm.trans found
  have uncut : min ((sortAscending samples).length * perMille.toNat / 1000)
      ((sortAscending samples).length - 1) =
        (sortAscending samples).length * perMille.toNat / 1000 := by
    omega
  rw [uncut] at atPlace
  obtain ⟨within, rfl⟩ := List.getElem?_eq_some_iff.mp atPlace
  exact isOrderStatistic_sortAscending samples within

end Places

/-! ## The figures of a list of samples -/

/-- The figures tell the order statistics of samples: five of them, at places
that the number of samples settles. -/
structure LatencySummary.Describes (figures : LatencySummary) (samples : List Binary64) :
    Prop where
  count : figures.count.toNat = samples.length
  /-- The least and the greatest figure bound the samples, -/
  least : figures.least ∈ samples ∧ ∀ x ∈ samples, totalLe figures.least x = true
  greatest : figures.greatest ∈ samples ∧ ∀ x ∈ samples, totalLe x figures.greatest = true
  /-- and each percentile is the sample at its place. -/
  p50 : ∀ x, IsOrderStatistic samples (samples.length * 500 / 1000) x ↔ x = figures.p50
  p95 : ∀ x, IsOrderStatistic samples (samples.length * 950 / 1000) x ↔ x = figures.p95
  p99 : ∀ x, IsOrderStatistic samples (samples.length * 990 / 1000) x ↔ x = figures.p99
  /-- The places are computed exactly and need no cut. -/
  uncut : ∀ arithmetic, ∀ perMille ∈ [(500 : UInt64), 950, 990],
    percentileIndex arithmetic samples.length perMille =
        .ok (samples.length * perMille.toNat / 1000) ∧
      samples.length * perMille.toNat / 1000 < samples.length
  ascending : totalLe figures.least figures.p50 = true ∧
    totalLe figures.p50 figures.p95 = true ∧ totalLe figures.p95 figures.p99 = true ∧
    totalLe figures.p99 figures.greatest = true
  /-- Of a single sample all figures are that sample, and nothing deviates. -/
  single : ∀ x, samples = [x] → figures.least = x ∧ figures.p50 = x ∧ figures.p95 = x ∧
    figures.p99 = x ∧ figures.greatest = x ∧ figures.deviation = .zero

namespace LatencySummary

variable {arithmetic : Arithmetic} {samples : List Binary64} {figures : LatencySummary}

theorem describes_of_ofAscending? (small : 1000 * samples.length < UInt64.size)
    (summed : ofAscending? arithmetic (sortAscending samples) = .ok (some figures)) :
    figures.Describes samples := by
  obtain ⟨inside, count, first, last, deviation, p50, p95, p99⟩ := figures_of_ofAscending? summed
  have some : 0 < samples.length := by
    rw [← length_sortAscending]
    exact inside
  have least : IsOrderStatistic samples 0 figures.least := by
    rw [first]
    exact isOrderStatistic_sortAscending samples _
  have greatest : IsOrderStatistic samples (samples.length - 1) figures.greatest := by
    have statistic :=
      isOrderStatistic_sortAscending samples (Nat.sub_one_lt (Nat.ne_of_gt inside))
    rw [← last, length_sortAscending] at statistic
    exact statistic
  have half : IsOrderStatistic samples (samples.length * 500 / 1000) figures.p50 :=
    isOrderStatistic_percentile some small (by decide) p50
  have most : IsOrderStatistic samples (samples.length * 950 / 1000) figures.p95 :=
    isOrderStatistic_percentile some small (by decide) p95
  have nearlyAll : IsOrderStatistic samples (samples.length * 990 / 1000) figures.p99 :=
    isOrderStatistic_percentile some small (by decide) p99
  exact
    { count := by
        rw [count, length_sortAscending, UInt64.toNat_ofNat_of_lt' (by omega)]
      least := ⟨least.mem, least.least⟩
      greatest := ⟨greatest.mem, greatest.greatest⟩
      p50 := fun x => half.iff_eq
      p95 := fun x => most.iff_eq
      p99 := fun x => nearlyAll.iff_eq
      uncut := by
        intro arithmetic perMille member
        apply percentileIndex_of_lt_thousand some small
        simp only [List.mem_cons, List.not_mem_nil, or_false] at member
        rcases member with rfl | rfl | rfl <;> decide
      ascending :=
        ⟨least.le half (Nat.zero_le _), half.le most (by omega), most.le nearlyAll (by omega),
          nearlyAll.le greatest (by omega)⟩
      single := by
        rintro x rfl
        have same : ∀ {k y}, IsOrderStatistic [x] k y → y = x :=
          fun statistic => List.mem_singleton.mp statistic.mem
        refine ⟨same least, same half, same most, same nearlyAll, same greatest, ?_⟩
        rw [deviation, deviationOf, length_sortAscending]
        rfl }

end LatencySummary

/-! ## What was recorded -/

namespace Collector

theorem samples_recordAll (c : Collector) (recorded : List Sample) :
    (c.recordAll recorded).samples = (recorded.map Prod.fst).reverse ++ c.samples := by
  induction recorded generalizing c with
  | nil => rfl
  | cons sample later ih =>
      rw [recordAll, List.foldl_cons]
      refine (ih _).trans ?_
      simp [record]

/-- A report is made of what was recorded, in whatever order.  It has latency figures
unless nothing was recorded, and they are the order statistics of that. -/
theorem figures_are_order_statistics (arithmetic : Arithmetic) (recorded : List Sample)
    (small : 1000 * recorded.length < UInt64.size) (span : Calendar.Span) (total : UInt64) :
    ∃ report, (empty.recordAll recorded).summarize arithmetic span total = .ok report ∧
      (report.latency = none ↔ recorded.length = 0) ∧
      ∀ figures, report.latency = some figures → figures.Describes (recorded.map Prod.fst) := by
  have samples := samples_recordAll empty recorded
  have length : (empty.recordAll recorded).samples.length = recorded.length := by
    rw [samples]
    simp [empty]
  obtain ⟨report, done⟩ : ∃ report,
      (empty.recordAll recorded).summarize arithmetic span total = .ok report := by
    rw [exists_summarize_iff (by omega)]
    exact .inr (by omega)
  refine ⟨report, done, ?_, ?_⟩
  · rw [latency_eq_none_iff done, ← List.length_eq_zero_iff, length]
  · intro figures summed
    have arranged : sortAscending (empty.recordAll recorded).samples =
        sortAscending (recorded.map Prod.fst) := by
      rw [samples, empty, List.append_nil]
      exact sortAscending_eq_of_perm (List.reverse_perm _)
    have made := (eq_of_summarize done).1
    rw [arranged, summed] at made
    apply LatencySummary.describes_of_ofAscending? _ made
    rw [List.length_map]
    exact small

/-- NaNs of either sign and both zeros: of four samples the third is the
median, which is the positive zero, and the last are the other percentiles. -/
theorem figures_are_order_statistics_nan_and_zeros :
    let recorded : List Sample :=
      [(⟨0x7ff8000000000000⟩, true), (.zero, false), (⟨0xfff8000000000000⟩, true),
        (.negativeZero, true)]
    1000 * recorded.length < UInt64.size ∧
      ∃ report figures,
        (empty.recordAll recorded).summarize .checked ⟨1, 0⟩ 4 = .ok report ∧
        report.latency = some figures ∧
        figures.Describes (recorded.map Prod.fst) ∧ figures.p50 = .zero ∧
        figures.p95 = ⟨0x7ff8000000000000⟩ ∧ figures.p99 = ⟨0x7ff8000000000000⟩ := by
  intro recorded
  have small : 1000 * recorded.length < UInt64.size := by decide
  obtain ⟨report, done, present, described⟩ :=
    figures_are_order_statistics .checked recorded small ⟨1, 0⟩ 4
  obtain ⟨figures, summed⟩ := Option.ne_none_iff_exists'.mp (mt present.mp (by decide))
  have figured := described figures summed
  refine ⟨small, report, figures, done, summed, figured, ?_, ?_, ?_⟩
  · exact ((figured.p50 _).mp ⟨by decide, by decide, by decide⟩).symm
  · exact ((figured.p95 _).mp ⟨by decide, by decide, by decide⟩).symm
  · exact ((figured.p99 _).mp ⟨by decide, by decide, by decide⟩).symm

end Collector

end ReservationLoad

import ReservationLoad.Proofs.Binary64.Sorting

/-!
# Order statistics

Which sample stands at place `k` of the ascending list can be said without any
sorting: at most `k` samples are below it, and more than `k` are not above it.
This determines the sample, bit for bit, whatever repetitions, NaNs and zeros
there are among the samples (`IsOrderStatistic.iff_eq`).
-/

namespace ReservationLoad.Binary64

/-- The sample whose place is `k`, counted from zero, when the samples are in
ascending order. -/
structure IsOrderStatistic (samples : List Binary64) (k : Nat) (x : Binary64) : Prop where
  mem : x ∈ samples
  /-- At most `k` samples are strictly below it, -/
  below : (samples.countP fun y => y.rank < x.rank) ≤ k
  /-- and at least one more is at or below it. -/
  within : k + 1 ≤ samples.countP fun y => totalLe y x

variable {samples samples' ascending : List Binary64} {j k : Nat} {x y : Binary64}

namespace IsOrderStatistic

theorem of_perm (same : samples.Perm samples') (statistic : IsOrderStatistic samples k x) :
    IsOrderStatistic samples' k x where
  mem := same.mem_iff.mp statistic.mem
  below := by
    rw [← same.countP_eq]
    exact statistic.below
  within := by
    rw [← same.countP_eq]
    exact statistic.within

/-- A later place holds no smaller sample. -/
theorem le (lower : IsOrderStatistic samples j x) (upper : IsOrderStatistic samples k y)
    (ordered : j ≤ k) : totalLe x y = true := by
  rcases Int.lt_or_le y.rank x.rank with above | below
  · -- All that is at or below `y` would be strictly below `x`.
    have fewer : (samples.countP fun z => totalLe z y) ≤
        samples.countP fun z => z.rank < x.rank := by
      apply List.countP_mono_left
      intro z _ atMost
      have bound := totalLe_iff.mp atMost
      rw [decide_eq_true_eq]
      omega
    have least := upper.within
    have most := lower.below
    omega
  · exact totalLe_iff.mpr below

/-- One sample only has a given place. -/
theorem iff_eq (statistic : IsOrderStatistic samples k x) :
    IsOrderStatistic samples k y ↔ y = x := by
  constructor
  · intro other
    exact totalLe_antisymm (other.le statistic (Nat.le_refl k)) (statistic.le other (Nat.le_refl k))
  · rintro rfl
    exact statistic

/-- The first place is that of the least sample, -/
theorem least (statistic : IsOrderStatistic samples 0 x) : ∀ y ∈ samples, totalLe x y = true := by
  intro y member
  have none := List.countP_eq_zero.mp (Nat.le_zero.mp statistic.below) y member
  rw [decide_eq_true_eq] at none
  rw [totalLe_iff]
  omega

/-- and the last place that of the greatest. -/
theorem greatest (statistic : IsOrderStatistic samples (samples.length - 1) x) :
    ∀ y ∈ samples, totalLe y x = true := by
  have most := List.countP_le_length (p := fun y => totalLe y x) (l := samples)
  have all : (samples.countP fun y => totalLe y x) = samples.length := by
    have least := statistic.within
    omega
  exact List.countP_eq_length.mp all

end IsOrderStatistic

/-! ## Ascending lists -/

theorem totalLe_getElem (sorted : ascending.Pairwise fun x y => totalLe x y = true)
    (front : j < ascending.length) (ordered : j ≤ k) (inside : k < ascending.length) :
    totalLe ascending[j] ascending[k] = true := by
  rcases Nat.eq_or_lt_of_le ordered with rfl | before
  · exact totalLe_iff.mpr (Int.le_refl _)
  · exact List.pairwise_iff_getElem.mp sorted j k _ inside before

/-- An ascending list shows the order statistics of its entries. -/
theorem isOrderStatistic_getElem (sorted : ascending.Pairwise fun x y => totalLe x y = true)
    (inside : k < ascending.length) : IsOrderStatistic ascending k ascending[k] where
  mem := List.getElem_mem inside
  below := by
    have after : ((ascending.drop k).countP fun y => y.rank < ascending[k].rank) = 0 := by
      rw [List.countP_eq_zero]
      intro y member
      obtain ⟨i, within, rfl⟩ := List.mem_drop_iff_getElem.mp member
      have above := totalLe_iff.mp (totalLe_getElem sorted inside (Nat.le_add_right k i) (by omega))
      rw [decide_eq_true_eq]
      omega
    calc ascending.countP (fun y => y.rank < ascending[k].rank)
        = (ascending.take k ++ ascending.drop k).countP fun y => y.rank < ascending[k].rank := by
          rw [List.take_append_drop]
      _ = (ascending.take k).countP fun y => y.rank < ascending[k].rank := by
          rw [List.countP_append, after, Nat.add_zero]
      _ ≤ (ascending.take k).length := List.countP_le_length
      _ ≤ k := List.length_take_le k ascending
  within := by
    have front : ((ascending.take (k + 1)).countP fun y => totalLe y ascending[k]) = k + 1 := by
      have all : ((ascending.take (k + 1)).countP fun y => totalLe y ascending[k]) =
          (ascending.take (k + 1)).length := by
        rw [List.countP_eq_length]
        intro y member
        obtain ⟨i, within, rfl⟩ := List.mem_take_iff_getElem.mp member
        exact totalLe_getElem sorted (by omega) (by omega) inside
      rw [all, List.length_take]
      omega
    calc k + 1
        = (ascending.take (k + 1)).countP fun y => totalLe y ascending[k] := front.symm
      _ ≤ ascending.countP fun y => totalLe y ascending[k] :=
          (List.take_sublist (k + 1) ascending).countP_le

/-- Sorting puts every sample to its place. -/
theorem isOrderStatistic_sortAscending (samples : List Binary64)
    (inside : k < (sortAscending samples).length) :
    IsOrderStatistic samples k (sortAscending samples)[k] :=
  (isOrderStatistic_getElem (pairwise_sortAscending samples) inside).of_perm
    (sortAscending_perm samples)

end ReservationLoad.Binary64

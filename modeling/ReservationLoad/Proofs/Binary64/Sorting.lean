import ReservationLoad.Binary64.Order

/-!
# Sorting doubles

The total order compares the ranks of patterns, so it is linear on all of
them, the NaNs and the two zeros included.  A list of doubles therefore has
one ascending arrangement only, and sorting forgets in which order they came.
-/

namespace ReservationLoad.Binary64

variable {x y z : Binary64} {samples samples' : List Binary64}

/-! ## The order -/

@[simp]
theorem totalLe_iff : totalLe x y = true ↔ x.rank ≤ y.rank := decide_eq_true_iff

theorem totalLe_trans (below : totalLe x y = true) (above : totalLe y z = true) :
    totalLe x z = true :=
  totalLe_iff.mpr (Int.le_trans (totalLe_iff.mp below) (totalLe_iff.mp above))

theorem totalLe_total (x y : Binary64) : (totalLe x y || totalLe y x) = true := by
  rw [Bool.or_eq_true, totalLe_iff, totalLe_iff]
  exact Int.le_total x.rank y.rank

/-- Patterns below each other are one pattern, bit for bit. -/
theorem totalLe_antisymm (below : totalLe x y = true) (above : totalLe y x = true) : x = y :=
  rank_injective (Int.le_antisymm (totalLe_iff.mp below) (totalLe_iff.mp above))

-- A negative NaN, minus infinity, the two zeros, infinity and a positive NaN.
example :
    [⟨0xfff8000000000000⟩, ⟨0xfff0000000000000⟩, negativeZero, zero, ⟨0x7ff0000000000000⟩,
      ⟨0x7ff8000000000000⟩].Pairwise fun x y : Binary64 => x.rank < y.rank := by
  decide

/-! ## Ascending lists -/

theorem sortAscending_perm (samples : List Binary64) : (sortAscending samples).Perm samples :=
  List.mergeSort_perm samples totalLe

@[simp]
theorem length_sortAscending (samples : List Binary64) :
    (sortAscending samples).length = samples.length :=
  (sortAscending_perm samples).length_eq

theorem pairwise_sortAscending (samples : List Binary64) :
    (sortAscending samples).Pairwise fun x y => totalLe x y = true := by
  apply List.pairwise_mergeSort
  · intro x y z
    exact totalLe_trans
  · exact totalLe_total

/-- Lists with the same entries are sorted into the same list. -/
theorem sortAscending_eq_of_perm (same : samples.Perm samples') :
    sortAscending samples = sortAscending samples' := by
  have arranged : (sortAscending samples).Perm (sortAscending samples') :=
    (sortAscending_perm samples).trans (same.trans (sortAscending_perm samples').symm)
  apply arranged.eq_of_pairwise
  · intro x y _ _ below above
    exact totalLe_antisymm below above
  · exact pairwise_sortAscending samples
  · exact pairwise_sortAscending samples'

end ReservationLoad.Binary64

import ReservationLoad.Binary64.Basic

/-!
# The total order of doubles

Samples are put in order before they are summed, so that a report depends
only on which samples there are.  The order places negative NaNs first, then
the numbers from minus to plus infinity with `-0` before `+0`, then positive
NaNs.  It is the order of one whole number per pattern, the `rank`.
-/

namespace ReservationLoad.Binary64

/-- The place of a pattern in the total order: a pattern without sign bit
counts up from zero, one with sign bit counts down from minus one. -/
def rank (x : Binary64) : Int :=
  if x.bits.toNat < 0x8000000000000000 then x.bits.toNat
  else -1 - ((x.bits.toNat : Int) - 0x8000000000000000)

/-- The total order. -/
def totalLe (x y : Binary64) : Bool := decide (x.rank ≤ y.rank)

/-- The samples in ascending total order. -/
def sortAscending (samples : List Binary64) : List Binary64 :=
  samples.mergeSort totalLe

/-- Two patterns of one rank are one pattern. -/
theorem rank_injective {x y : Binary64} (same : x.rank = y.rank) : x = y := by
  have xBound := x.bits.toNat_lt
  have yBound := y.bits.toNat_lt
  have bitsEqual : x.bits.toNat = y.bits.toNat := by
    unfold rank at same
    split at same <;> split at same <;> omega
  cases x
  cases y
  congr 1
  exact UInt64.toNat_inj.1 bitsEqual

end ReservationLoad.Binary64

import Mathlib.Algebra.Order.Field.Basic
import Mathlib.Algebra.Order.Ring.Rat
import Mathlib.Algebra.Ring.Int.Parity
import Mathlib.Tactic.FieldSimp
import Mathlib.Tactic.Linarith
import Mathlib.Tactic.Positivity
import Mathlib.Tactic.Ring
import ReservationLoad.Binary64.Digits

/-!
# Nearest whole numbers

What it means to round a fraction is said without any division: no whole number
is nearer, and of two that are equally near the even one is taken.  This settles
the whole number, keeps the order and turns over with the sign.  The quotient that
is rounded by its remainder is that number.
-/

namespace ReservationLoad.Binary64

/-- The whole number is nearest to a fraction, and even if another one is as near. -/
structure IsNearest (q : ℚ) (n : ℤ) : Prop where
  near : ∀ m : ℤ, |q - n| ≤ |q - m|
  even : ∀ m : ℤ, m ≠ n → |q - m| = |q - n| → Even n

namespace IsNearest

variable {q r : ℚ} {m n : ℤ}

/-- Different whole numbers are one apart at least, so they share the way between
them. -/
theorem one_le_of_ne (other : m ≠ n) (q : ℚ) : 1 ≤ |q - m| + |q - n| := by
  have apart : (1 : ℤ) ≤ |m - n| := Int.one_le_abs (sub_ne_zero.mpr other)
  calc (1 : ℚ) ≤ |(m : ℚ) - n| := by exact_mod_cast apart
    _ ≤ |(m : ℚ) - q| + |q - n| := abs_sub_le _ _ _
    _ = |q - m| + |q - n| := by rw [abs_sub_comm]

/-- Nearest are the whole numbers that are half of one away, or less. -/
theorem iff_half : IsNearest q n ↔ |q - n| ≤ 1 / 2 ∧ (|q - n| = 1 / 2 → Even n) := by
  constructor
  · intro nearest
    -- The neighbour on the side of the fraction is one step further on.
    obtain ⟨m, other, step⟩ : ∃ m : ℤ, m ≠ n ∧ |q - m| = |1 - abs (q - n)| := by
      rcases le_total 0 (q - n) with above | below
      · refine ⟨n + 1, by omega, ?_⟩
        rw [abs_of_nonneg above, ← abs_neg]
        congr 1
        push_cast
        ring
      · refine ⟨n - 1, by omega, ?_⟩
        rw [abs_of_nonpos below]
        congr 1
        push_cast
        ring
    have near := nearest.near m
    have nonneg := abs_nonneg (q - n)
    have half : |q - n| ≤ 1 / 2 := by
      rw [step] at near
      rcases le_abs.mp near with less | more <;> linarith
    refine ⟨half, fun tie => nearest.even m other ?_⟩
    rw [step, tie]
    norm_num
  · rintro ⟨half, tie⟩
    refine ⟨fun m => ?_, fun m other same => tie ?_⟩
    · by_cases same : m = n
      · rw [same]
      · linarith [one_le_of_ne same q]
    · linarith [one_le_of_ne other q]

/-- Rounding keeps the order. -/
theorem mono (left : IsNearest q m) (right : IsNearest r n) (ordered : q ≤ r) : m ≤ n := by
  by_contra above
  obtain ⟨leftHalf, leftTie⟩ := iff_half.mp left
  obtain ⟨rightHalf, rightTie⟩ := iff_half.mp right
  have step : (n : ℚ) + 1 ≤ m := by exact_mod_cast not_le.mp above
  have low := (abs_le.mp leftHalf).1
  have high := (abs_le.mp rightHalf).2
  -- Only a tie in the middle of two neighbours is left, and one of them is odd.
  have middle : q - m = -(1 / 2) ∧ r - n = 1 / 2 ∧ (m : ℚ) = n + 1 :=
    ⟨by linarith, by linarith, by linarith⟩
  have evenLeft := leftTie (by rw [middle.1, abs_neg, abs_of_pos one_half_pos])
  have evenRight := rightTie (by rw [middle.2.1, abs_of_pos one_half_pos])
  have next : m = n + 1 := by exact_mod_cast middle.2.2
  rw [next, Int.even_add_one] at evenLeft
  exact evenLeft evenRight

theorem unique (left : IsNearest q m) (right : IsNearest q n) : m = n :=
  le_antisymm (left.mono right le_rfl) (right.mono left le_rfl)

theorem neg (nearest : IsNearest q n) : IsNearest (-q) (-n) := by
  have same : |-q - ((-n : ℤ) : ℚ)| = |q - n| := by
    rw [← abs_neg]
    congr 1
    push_cast
    ring
  rw [iff_half, same, even_neg]
  exact iff_half.mp nearest

/-- A fraction in front of the middle is rounded down, -/
theorem of_lt_half {t : ℚ} (nonneg : 0 ≤ t) (below : t < 1 / 2) : IsNearest (n + t) n := by
  rw [iff_half, add_sub_cancel_left, abs_of_nonneg nonneg]
  exact ⟨below.le, fun tie => absurd tie below.ne⟩

/-- one behind the middle is rounded up, -/
theorem of_half_lt {t : ℚ} (above : 1 / 2 < t) (small : t ≤ 1) :
    IsNearest (n + t) (n + 1 : ℤ) := by
  have rest : (n : ℚ) + t - (n + 1 : ℤ) = -(1 - t) := by
    push_cast
    ring
  rw [iff_half, rest, abs_neg, abs_of_nonneg (sub_nonneg.mpr small)]
  exact ⟨by linarith, fun tie => absurd tie (by linarith)⟩

/-- and the middle goes to the even side. -/
theorem of_half : IsNearest (n + 1 / 2) (if Even n then n else n + 1 : ℤ) := by
  split
  next even =>
    rw [iff_half, add_sub_cancel_left, abs_of_pos one_half_pos]
    exact ⟨le_rfl, fun _ => even⟩
  next odd =>
    have rest : (n : ℚ) + 1 / 2 - (n + 1 : ℤ) = -(1 / 2) := by
      push_cast
      ring
    rw [iff_half, rest, abs_neg, abs_of_pos one_half_pos]
    exact ⟨le_rfl, fun _ => Int.even_add_one.mpr odd⟩

end IsNearest

/-- The remainder of a division tells which whole number is nearest. -/
theorem isNearest_roundQuotient (numerator : Nat) {denominator : Nat} (some : 0 < denominator) :
    IsNearest (numerator / denominator) (roundQuotient numerator denominator) := by
  have positive : (0 : ℚ) < denominator := by exact_mod_cast some
  have parts : (numerator : ℚ) / denominator =
      ((numerator / denominator : Nat) : ℤ) +
        (numerator % denominator : Nat) / (denominator : ℚ) := by
    rw [div_eq_iff positive.ne', add_mul, div_mul_cancel₀ _ positive.ne', Int.cast_natCast]
    exact_mod_cast (Nat.div_add_mod' numerator denominator).symm
  rw [parts]
  unfold roundQuotient
  simp only
  split
  next below =>
    apply IsNearest.of_lt_half (by positivity)
    rw [div_lt_div_iff₀ positive two_pos, one_mul, mul_comm]
    exact_mod_cast below
  next notBelow =>
    split
    next above =>
      rw [Nat.cast_add_one]
      apply IsNearest.of_half_lt
      · rw [div_lt_div_iff₀ two_pos positive, one_mul, mul_comm]
        exact_mod_cast above
      · rw [div_le_one positive]
        exact_mod_cast (Nat.mod_lt numerator some).le
    next notAbove =>
      have tie : (denominator : ℚ) = 2 * (numerator % denominator : Nat) := by
        exact_mod_cast (by omega : denominator = 2 * (numerator % denominator))
      have half : ((numerator % denominator : Nat) : ℚ) / denominator = 1 / 2 := by
        rw [div_eq_div_iff positive.ne' two_ne_zero, tie]
        ring
      have rounded := IsNearest.of_half (n := (numerator / denominator : Nat))
      rw [half]
      split
      next even => rwa [if_pos ((Int.even_coe_nat _).mpr (Nat.even_iff.mpr even))] at rounded
      next odd =>
        rwa [if_neg fun even => odd (Nat.even_iff.mp ((Int.even_coe_nat _).mp even))] at rounded

end ReservationLoad.Binary64

import Mathlib.Algebra.Order.Field.Power
import ReservationLoad.Binary64.Order
import ReservationLoad.Proofs.Binary64.Nearest

/-!
# The value of a double

A finite double stands for a fraction: its significand times a power of two, with
its sign.  All of them are whole multiples of the least one, and that is how the
order of the patterns becomes the order of the values.
-/

namespace ReservationLoad.Binary64

variable {x y : Binary64}

/-- The absolute value of a finite double. -/
def absolute (x : Binary64) : ℚ := x.significand * 2 ^ x.scale

/-- The exact value of a finite double. -/
def value (x : Binary64) : ℚ := if x.isNegative then -x.absolute else x.absolute

theorem absolute_nonneg (x : Binary64) : 0 ≤ x.absolute := by
  unfold absolute
  positivity

theorem denominator_pos (x : Binary64) : 0 < x.magnitude.denominator := by
  unfold magnitude
  split
  next => exact Nat.one_pos
  next => exact Nat.pow_pos Nat.two_pos

/-- The quotient that is rounded is the absolute value. -/
theorem absolute_eq_div (x : Binary64) :
    x.absolute = x.magnitude.numerator / x.magnitude.denominator := by
  unfold absolute magnitude
  split
  next whole =>
    obtain ⟨k, power⟩ := Int.eq_ofNat_of_zero_le whole
    simp only [power, Int.toNat_natCast, Nat.pow_eq, zpow_natCast]
    push_cast
    rw [div_one]
  next fraction =>
    obtain ⟨k, power⟩ := Int.eq_ofNat_of_zero_le (Int.neg_nonneg.mpr (not_le.mp fraction).le)
    rw [← neg_neg x.scale, zpow_neg, power, zpow_natCast]
    simp only [neg_neg, Int.toNat_natCast, Nat.pow_eq, div_eq_mul_inv]
    push_cast
    rfl

/-- What is printed is the absolute value in hundredths, rounded to the nearest. -/
theorem isNearest_roundToPlaces (places : Nat) (x : Binary64) :
    IsNearest (x.absolute * 10 ^ places) (x.roundToPlaces places) := by
  have quotient : x.absolute * 10 ^ places =
      (x.magnitude.numerator * Nat.pow 10 places : Nat) / x.magnitude.denominator := by
    rw [absolute_eq_div, div_mul_eq_mul_div, Nat.pow_eq]
    push_cast
    rfl
  rw [quotient]
  exact isNearest_roundQuotient _ x.denominator_pos

/-! ## The order of the patterns -/

/-- The absolute value in units of the least positive double. -/
def units (x : Binary64) : Nat :=
  if x.exponentField = 0 then x.fractionField
  else (0x10000000000000 + x.fractionField) * 2 ^ (x.exponentField - 1)

/-- The least positive double. -/
def least : ℚ := 2 ^ (-1074 : ℤ)

theorem absolute_eq_units (x : Binary64) : x.absolute = x.units * least := by
  unfold absolute significand scale units least
  split
  next => rfl
  next normal =>
    have power : (x.exponentField : ℤ) - 1075 = (x.exponentField - 1 : Nat) + -1074 := by omega
    rw [power, zpow_add₀ two_ne_zero, zpow_natCast, ← mul_assoc]
    congr 1
    push_cast
    rfl

/-- The pattern without its sign bit. -/
def unsignedBits (x : Binary64) : Nat := x.bits.toNat % 0x8000000000000000

/-- The bits below the sign count up with the absolute value. -/
theorem units_le (ordered : x.unsignedBits ≤ y.unsignedBits) : x.units ≤ y.units := by
  have parts : ∀ z : Binary64,
      z.unsignedBits = z.exponentField * 0x10000000000000 + z.fractionField := by
    intro z
    unfold unsignedBits exponentField fractionField
    omega
  have small : ∀ z : Binary64, z.fractionField < 0x10000000000000 := by
    intro z
    exact Nat.mod_lt _ (by decide)
  rw [parts, parts] at ordered
  have smallX := small x
  have smallY := small y
  unfold units
  rcases Nat.lt_trichotomy x.exponentField y.exponentField with less | same | more
  · have normal : y.exponentField ≠ 0 := Nat.ne_zero_of_lt less
    rw [if_neg normal]
    -- A greater exponent doubles the unit at least, and a significand does not double.
    have below : (if x.exponentField = 0 then x.fractionField
        else (0x10000000000000 + x.fractionField) * 2 ^ (x.exponentField - 1)) ≤
        0x10000000000000 * 2 ^ x.exponentField := by
      split
      next zero =>
        rw [zero]
        omega
      next nonzero =>
        have double : 2 ^ x.exponentField = 2 * 2 ^ (x.exponentField - 1) := by
          rw [← Nat.pow_succ', Nat.succ_eq_add_one, Nat.sub_one_add_one nonzero]
        rw [double, ← Nat.mul_assoc]
        exact Nat.mul_le_mul_right _ (by omega)
    calc _ ≤ 0x10000000000000 * 2 ^ x.exponentField := below
      _ ≤ 0x10000000000000 * 2 ^ (y.exponentField - 1) :=
          Nat.mul_le_mul_left _ (Nat.pow_le_pow_right Nat.two_pos (by omega))
      _ ≤ _ := Nat.mul_le_mul_right _ (Nat.le_add_right _ _)
  · rw [same] at ordered ⊢
    have fractions : x.fractionField ≤ y.fractionField := by omega
    split
    next => exact fractions
    next => exact Nat.mul_le_mul_right _ (Nat.add_le_add_left fractions _)
  · omega

theorem absolute_le (ordered : x.unsignedBits ≤ y.unsignedBits) : x.absolute ≤ y.absolute := by
  rw [absolute_eq_units, absolute_eq_units]
  have counted : (x.units : ℚ) ≤ y.units := by exact_mod_cast units_le ordered
  exact mul_le_mul_of_nonneg_right counted (zpow_nonneg zero_le_two _)

theorem isNegative_iff : x.isNegative = true ↔ 0x8000000000000000 ≤ x.bits.toNat := by
  rw [isNegative, decide_eq_true_eq, ge_iff_le, UInt64.le_iff_toNat_le]
  rfl

/-- The total order of patterns is the order of their values. -/
theorem value_le_of_totalLe (ordered : totalLe x y = true) : x.value ≤ y.value := by
  have ranks := of_decide_eq_true ordered
  have wordX := x.bits.toNat_lt
  have wordY := y.bits.toNat_lt
  unfold rank at ranks
  unfold value
  rcases Nat.lt_or_ge x.bits.toNat 0x8000000000000000 with plainX | minusX <;>
    rcases Nat.lt_or_ge y.bits.toNat 0x8000000000000000 with plainY | minusY
  · rw [if_pos plainX, if_pos plainY] at ranks
    rw [if_neg (isNegative_iff.not.mpr plainX.not_ge),
      if_neg (isNegative_iff.not.mpr plainY.not_ge)]
    exact absolute_le (by unfold unsignedBits; omega)
  · rw [if_pos plainX, if_neg minusY.not_gt] at ranks
    omega
  · rw [if_pos (isNegative_iff.mpr minusX), if_neg (isNegative_iff.not.mpr plainY.not_ge)]
    linarith [x.absolute_nonneg, y.absolute_nonneg]
  · rw [if_neg minusX.not_gt, if_neg minusY.not_gt] at ranks
    rw [if_pos (isNegative_iff.mpr minusX), if_pos (isNegative_iff.mpr minusY)]
    exact neg_le_neg (absolute_le (by unfold unsignedBits; omega))

end ReservationLoad.Binary64

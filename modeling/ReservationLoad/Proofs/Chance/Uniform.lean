import Mathlib.Algebra.Order.Floor.Div
import Mathlib.Data.Set.Card
import Mathlib.Order.Interval.Finset.Nat
import ReservationLoad.Proofs.Chance.Draws

/-!
# Draws are uniform

The words that are accepted for one number below `n` are an interval of the
64-bit words, and its length does not depend on the number: it is two to the
power of the number of leading zero bits of `n` (`ncard_isDraw`).  For a word
`w` is accepted for `i` when the product of `w` and `n` lies in the window of
width `n * 2 ^ leadingZeros n` that begins at `i * 2 ^ 64`, and the multiples of
`n` in such a window are the products of as many words.
-/

namespace ReservationLoad.Chance

/-! ## The width of a window -/

section Width

variable {n : UInt64}

theorem leadingZeros_lt (positive : 0 < n) : leadingZeros n < 64 := by
  have nonzero : n ≠ 0 := (UInt64.ne_of_lt positive).symm
  rw [leadingZeros, if_neg nonzero]
  omega

/-- A positive word fits behind its leading zeros. -/
theorem width_lt (positive : 0 < n) : n.toNat * 2 ^ leadingZeros n < UInt64.size := by
  have nonzero : n ≠ 0 := (UInt64.ne_of_lt positive).symm
  have some : n.toNat ≠ 0 := (UInt64.lt_iff_toNat_lt.mp positive).ne'
  have short : n.toNat.log2 < 64 := (Nat.log2_lt some).mpr n.toNat_lt
  have total : n.toNat.log2 + 1 + (63 - n.toNat.log2) = 64 := by omega
  rw [leadingZeros, if_neg nonzero]
  calc n.toNat * 2 ^ (63 - n.toNat.log2)
      < 2 ^ (n.toNat.log2 + 1) * 2 ^ (63 - n.toNat.log2) :=
        Nat.mul_lt_mul_of_pos_right Nat.lt_log2_self (Nat.two_pow_pos _)
    _ = UInt64.size := by rw [← Nat.pow_add, total]

theorem acceptanceBound_toNat (positive : 0 < n) :
    (acceptanceBound n).toNat + 1 = n.toNat * 2 ^ leadingZeros n := by
  have amount : (UInt64.ofNat (leadingZeros n)).toNat % 64 = leadingZeros n := by
    have few := leadingZeros_lt positive
    rw [UInt64.toNat_ofNat_of_lt' (Nat.lt_trans few (by decide)), Nat.mod_eq_of_lt few]
  have shifted : (n <<< UInt64.ofNat (leadingZeros n)).toNat = n.toNat * 2 ^ leadingZeros n := by
    rw [UInt64.toNat_shiftLeft, amount, Nat.shiftLeft_eq]
    exact Nat.mod_eq_of_lt (width_lt positive)
  have some : 0 < n.toNat * 2 ^ leadingZeros n :=
    Nat.mul_pos (UInt64.lt_iff_toNat_lt.mp positive) (Nat.two_pow_pos _)
  have below : (1 : UInt64) ≤ n <<< UInt64.ofNat (leadingZeros n) := by
    rw [UInt64.le_iff_toNat_le, shifted]
    exact some
  rw [acceptanceBound, UInt64.toNat_sub_of_le _ _ below, shifted]
  exact Nat.sub_add_cancel some

end Width

/-! ## The words for one number -/

section Window

variable {n : UInt64} {place : Nat}

/-- A word is accepted for a number when the product is in the number's window. -/
theorem isDraw_singleton_iff_window (positive : 0 < n) (word : UInt64) :
    IsDraw n [word] place ↔
      place * UInt64.size ≤ n.toNat * word.toNat ∧
        n.toNat * word.toNat < place * UInt64.size + n.toNat * 2 ^ leadingZeros n := by
  have width := width_lt positive
  have bound := acceptanceBound_toNat positive
  rw [IsDraw.singleton_iff, accepts, select, product, decide_eq_true_eq, Nat.mul_comm word.toNat]
  generalize n.toNat * word.toNat = product at *
  generalize n.toNat * 2 ^ leadingZeros n = width at *
  simp only [UInt64.size] at *
  omega

/-- The first word for a number. -/
def firstWord (n : UInt64) (place : Nat) : Nat := (place * UInt64.size) ⌈/⌉ n.toNat

/-- Multiples of the divisor stay out of the rounding. -/
theorem ceilDiv_add_mul {size : Nat} (positive : 0 < size) (start count : Nat) :
    (start + size * count) ⌈/⌉ size = start ⌈/⌉ size + count := by
  have apart : start + size * count + size - 1 = start + size - 1 + size * count := by omega
  rw [Nat.ceilDiv_eq_add_pred_div, Nat.ceilDiv_eq_add_pred_div, apart,
    Nat.add_mul_div_left _ _ positive]

/-- The words for a number are an interval. -/
theorem isDraw_singleton_iff_mem (positive : 0 < n) (word : UInt64) :
    IsDraw n [word] place ↔
      word.toNat ∈ Finset.Ico (firstWord n place) (firstWord n place + 2 ^ leadingZeros n) := by
  have range : 0 < n.toNat := UInt64.lt_iff_toNat_lt.mp positive
  have last : place * UInt64.size + n.toNat * 2 ^ leadingZeros n ≤ n.toNat * word.toNat ↔
      firstWord n place + 2 ^ leadingZeros n ≤ word.toNat := by
    rw [firstWord, ← ceilDiv_add_mul range, ceilDiv_le_iff_le_mul range]
  rw [isDraw_singleton_iff_window positive, Finset.mem_Ico, ← not_le, last, not_le, firstWord,
    ceilDiv_le_iff_le_mul range]

/-- All numbers in the window of a number in the range are words. -/
theorem firstWord_add_le (positive : 0 < n) (inside : place < n.toNat) :
    firstWord n place + 2 ^ leadingZeros n ≤ UInt64.size := by
  have range : 0 < n.toNat := UInt64.lt_iff_toNat_lt.mp positive
  rw [firstWord, ← ceilDiv_add_mul range, ceilDiv_le_iff_le_mul range]
  calc place * UInt64.size + n.toNat * 2 ^ leadingZeros n
      ≤ place * UInt64.size + UInt64.size := Nat.add_le_add_left (width_lt positive).le _
    _ = (place + 1) * UInt64.size := (Nat.succ_mul ..).symm
    _ ≤ n.toNat * UInt64.size := Nat.mul_le_mul_right _ inside

end Window

/-- **Every number below `n` is drawn by equally many words.** -/
theorem ncard_isDraw {n : UInt64} {place : Nat} (inside : place < n.toNat) :
    {word | IsDraw n [word] place}.ncard = 2 ^ leadingZeros n := by
  have positive : 0 < n := UInt64.lt_iff_toNat_lt.mpr (Nat.zero_lt_of_lt inside)
  have image : UInt64.toNat '' {word | IsDraw n [word] place} =
      Finset.Ico (firstWord n place) (firstWord n place + 2 ^ leadingZeros n) := by
    ext number
    constructor
    · rintro ⟨word, draw, rfl⟩
      exact (isDraw_singleton_iff_mem positive word).mp draw
    · intro member
      have fits : number < UInt64.size :=
        (Finset.mem_Ico.mp member).2.trans_le (firstWord_add_le positive inside)
      have back : (UInt64.ofNat number).toNat = number := UInt64.toNat_ofNat_of_lt' fits
      refine ⟨.ofNat number, (isDraw_singleton_iff_mem positive _).mpr ?_, back⟩
      rw [back]
      exact member
  rw [← Set.ncard_image_of_injective _ fun _ _ => UInt64.toNat_inj.mp, image,
    Set.ncard_coe_finset, Nat.card_Ico, Nat.add_sub_cancel_left]

end ReservationLoad.Chance

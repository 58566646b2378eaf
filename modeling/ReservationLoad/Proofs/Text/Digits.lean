import Mathlib.Algebra.Group.Nat.Defs
import ReservationLoad.Binary64.Text
import ReservationLoad.Text.Blank
import ReservationLoad.Text.Numeral

/-!
# Decimal digits

Numbers are written with the digits of `Decimal.ofNat`, sometimes with zeros
in front.  This module says what every reader of digits makes of them: each is a
digit, together they have the value of the number, and no zero comes first
without need.
-/

namespace ReservationLoad

theorem Text.digitValue?_eq (c : Char) :
    digitValue? c = if c.isDigit then some (c.toNat - '0'.toNat) else none := by
  have same : ('0' ≤ c ∧ c ≤ '9') ↔ c.isDigit = true := by
    simp only [Char.isDigit, Bool.and_eq_true, decide_eq_true_eq, Char.le_def, ge_iff_le]
  by_cases digit : c.isDigit = true
  · rw [digitValue?, if_pos (same.mpr digit), if_pos digit]
  · rw [digitValue?, if_neg (fun range => digit (same.mp range)), if_neg digit]

theorem Text.digitValue?_of_isDigit {c : Char} (digit : c.isDigit = true) :
    digitValue? c = some (c.toNat - '0'.toNat) := by
  rw [digitValue?_eq, if_pos digit]

@[simp]
theorem Text.isSome_digitValue? (c : Char) : (digitValue? c).isSome = c.isDigit := by
  rw [digitValue?_eq]
  cases c.isDigit <;> rfl

theorem Text.digitValue?_eq_none {c : Char} (other : c.isDigit = false) :
    digitValue? c = none := by
  rw [digitValue?_eq, other]
  rfl

/-- Digits are no white space. -/
theorem Text.isBlank_of_isDigit {c : Char} (digit : c.isDigit = true) : isBlank c = false := by
  have decimal : ∀ code < 58, 48 ≤ code →
      CodeRanges.containsFrom false code whiteSpace.edges = false := by decide
  simp only [Char.isDigit, Bool.and_eq_true, decide_eq_true_eq] at digit
  exact decimal c.toNat (Nat.lt_succ_of_le digit.2) digit.1

namespace Decimal

/-- Further digits make a number no smaller. -/
theorem le_ofDigitChars (digits : List Char) (value : Nat) :
    value ≤ Nat.ofDigitChars 10 digits value := by
  rw [Nat.ofDigitChars_eq_ofDigitChars_zero]
  have power : 0 < 10 ^ digits.length := Nat.pow_pos (by decide)
  have grown := Nat.le_mul_of_pos_left value power
  omega

theorem ofNat_ne_nil (n : Nat) : ofNat n ≠ [] := Nat.toDigits_ne_nil

theorem isDigit_of_mem_ofNat {n : Nat} {c : Char} (member : c ∈ ofNat n) : c.isDigit = true :=
  Nat.isDigit_of_mem_toDigits (by decide) (by decide) member

/-- Digits start with no sign. -/
theorem ofNat_ne_minus (n : Nat) (tail : List Char) : ofNat n ≠ '-' :: tail := by
  intro minus
  have digit : '-'.isDigit = true := by
    apply isDigit_of_mem_ofNat (n := n)
    rw [minus]
    exact List.mem_cons_self
  cases digit

@[simp]
theorem value_ofNat (n : Nat) : Nat.ofDigitChars 10 (ofNat n) 0 = n :=
  Nat.ofDigitChars_ten_toDigits

theorem ofNat_injective : Function.Injective ofNat :=
  Function.LeftInverse.injective value_ofNat

theorem toList_toString (n : Nat) : (toString n).toList = ofNat n := by
  rw [Nat.toString_eq_ofList_toDigits, String.toList_ofList, ofNat]

theorem toList_toString_int (i : Int) :
    (toString i).toList = if i < 0 then '-' :: ofNat i.natAbs else ofNat i.natAbs := by
  cases i with
  | ofNat n =>
      have natural : ¬ Int.ofNat n < 0 := Int.not_lt.mpr (Int.natCast_nonneg n)
      rw [if_neg natural]
      exact toList_toString n
  | negSucc n =>
      rw [if_pos (Int.negSucc_lt_zero n)]
      change ("-" ++ toString (n + 1)).toList = _
      rw [String.toList_append, toList_toString]
      rfl

/-- A zero comes first only in the digits of zero. -/
theorem head_ofNat {n : Nat} (nonzero : n ≠ 0) :
    ∃ first more, ofNat n = first :: more ∧ first ≠ '0' := by
  induction n using Nat.strongRecOn with
  | _ n ih =>
      rw [ofNat, Nat.toDigits_eq_if (by decide)]
      split
      next small =>
        refine ⟨n.digitChar, [], rfl, ?_⟩
        rw [ne_eq, Nat.digitChar_eq_zero]
        exact nonzero
      next large =>
        rcases ih (n / 10) (by omega) (by omega) with ⟨first, more, digits, notZero⟩
        rw [ofNat] at digits
        exact ⟨first, more ++ [(n % 10).digitChar], by rw [digits]; rfl, notZero⟩

theorem eq_zero_of_ofNat {n : Nat} {more : List Char} (zero : ofNat n = '0' :: more) : n = 0 := by
  apply Decidable.of_not_not
  intro nonzero
  rcases head_ofNat nonzero with ⟨first, others, digits, notZero⟩
  exact notZero (List.head_eq_of_cons_eq (digits.symm.trans zero))

/-- No further digit follows a zero in front. -/
theorem alone_of_ofNat {n : Nat} {more : List Char} (zero : ofNat n = '0' :: more) :
    more = [] := by
  rw [eq_zero_of_ofNat zero] at zero
  exact (List.tail_eq_of_cons_eq zero).symm

/-! ## Zeros in front -/

theorem isDigit_of_mem_padLeft {width : Nat} {digits : List Char} {c : Char}
    (all : ∀ c ∈ digits, c.isDigit = true) (member : c ∈ padLeft width digits) :
    c.isDigit = true := by
  rcases List.mem_append.mp member with zero | digit
  · rw [List.eq_of_mem_replicate zero]
    rfl
  · exact all c digit

@[simp]
theorem value_padLeft (width : Nat) (digits : List Char) :
    Nat.ofDigitChars 10 (padLeft width digits) 0 = Nat.ofDigitChars 10 digits 0 := by
  rw [padLeft, Nat.ofDigitChars_append, Nat.ofDigitChars_replicate_zero, Nat.mul_zero]

theorem length_padLeft (width : Nat) (digits : List Char) :
    (padLeft width digits).length = max width digits.length := by
  rw [padLeft, List.length_append, List.length_replicate]
  omega

theorem length_ofNat_le {n width : Nat} (some : 0 < width) (small : n < 10 ^ width) :
    (ofNat n).length ≤ width :=
  (Nat.length_toDigits_le_iff (by decide) some).mpr small

end Decimal

end ReservationLoad

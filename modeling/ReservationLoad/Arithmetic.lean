/-!
# Arithmetic of words

How a program treats sums and products that are no 64-bit words is settled when it
is built.  They end it with a message if its arithmetic is checked, as it is unless
the program is built for speed, and lose their higher bits if it wraps around.
-/

namespace ReservationLoad

/-- What happens to numbers that are no words. -/
inductive Arithmetic
  | checked
  | wrapping
deriving DecidableEq

/-- The operation whose result is no word. -/
inductive Overflow
  | addition
  | multiplication
deriving DecidableEq

def Overflow.message : Overflow → String
  | .addition => "attempt to add with overflow"
  | .multiplication => "attempt to multiply with overflow"

namespace Arithmetic

/-- The word for the exact result of an operation. -/
def settle (arithmetic : Arithmetic) (overflow : Overflow) (result : Nat) :
    Except Overflow UInt64 :=
  if arithmetic = checked ∧ UInt64.size ≤ result then .error overflow
  else .ok (UInt64.ofNat result)

def add (arithmetic : Arithmetic) (x y : UInt64) : Except Overflow UInt64 :=
  arithmetic.settle .addition (x.toNat + y.toNat)

def mul (arithmetic : Arithmetic) (x y : UInt64) : Except Overflow UInt64 :=
  arithmetic.settle .multiplication (x.toNat * y.toNat)

variable {arithmetic : Arithmetic} {overflow : Overflow} {result : Nat}

/-- Arithmetic that wraps around always goes on. -/
theorem settle_wrapping (overflow : Overflow) (result : Nat) :
    wrapping.settle overflow result = .ok (UInt64.ofNat result) :=
  if_neg fun both => nomatch both.1

/-- A result that is a word is not changed. -/
theorem settle_of_lt (small : result < UInt64.size) :
    arithmetic.settle overflow result = .ok (UInt64.ofNat result) :=
  if_neg fun both => Nat.not_le_of_lt small both.2

/-- Checked arithmetic stops at a result that is no word. -/
theorem settle_checked_of_le (large : UInt64.size ≤ result) :
    checked.settle overflow result = .error overflow :=
  if_pos ⟨rfl, large⟩

/-- Checked arithmetic yields the result itself, or nothing. -/
theorem toNat_of_settle_checked {word : UInt64}
    (settled : checked.settle overflow result = .ok word) : word.toNat = result := by
  rcases Nat.lt_or_ge result UInt64.size with small | large
  · rw [settle_of_lt small] at settled
    cases settled
    exact UInt64.toNat_ofNat_of_lt' small
  · rw [settle_checked_of_le large] at settled
    cases settled

/-- A word comes out unless the result is none and that is checked. -/
theorem exists_settle_iff (overflow : Overflow) :
    (∃ word, arithmetic.settle overflow result = .ok word) ↔
      arithmetic = wrapping ∨ result < UInt64.size := by
  cases arithmetic with
  | wrapping => exact iff_of_true ⟨_, settle_wrapping overflow result⟩ (.inl rfl)
  | checked =>
      rcases Nat.lt_or_ge result UInt64.size with small | large
      · exact iff_of_true ⟨_, settle_of_lt small⟩ (.inr small)
      · rw [settle_checked_of_le large]
        refine iff_of_false (fun ⟨_, same⟩ => nomatch same) ?_
        rintro (other | small)
        · cases other
        · exact Nat.not_le_of_lt small large

end Arithmetic

end ReservationLoad

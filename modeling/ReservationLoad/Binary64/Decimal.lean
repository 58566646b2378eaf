import ReservationLoad.Binary64.Basic

/-!
# Decimals read as doubles

A decimal is a whole number and a power of ten.  It is rounded once, to the
nearest double, so that it reads the same whatever notation it was written
in.
-/

namespace ReservationLoad.Binary64

/-- The pattern of positive infinity. -/
def infinity : Binary64 := ⟨0x7FF0000000000000⟩

/-- The pattern of a quiet NaN. -/
def notANumber : Binary64 := ⟨0x7FF8000000000000⟩

/-- The double nearest to `significand * 10 ^ exponent`.  Decimals far beyond
either end of the doubles are settled by their size alone. -/
def ofDecimal (significand : Nat) (exponent : Int) : Binary64 :=
  let size : Int := (Nat.toDigits 10 significand).length + exponent
  if significand = 0 ∨ size < -400 then zero
  else if 400 < size then infinity
  else if 0 ≤ exponent then ofFloat (Float.ofScientific significand false exponent.toNat)
  else ofFloat (Float.ofScientific significand true (-exponent).toNat)

end ReservationLoad.Binary64

/-!
# Doubles as bit patterns

A measured latency may be any of the 2^64 patterns of a double, and two
patterns that are both "not a number" are still two different samples: the
total order of `ReservationLoad.Binary64.Order` tells them apart.  So a
double is kept here as its bits.  Arithmetic goes through the arithmetic of
`Float`, which rounds every result to nearest, ties to even.
-/

namespace ReservationLoad

/-- A double-precision number, given by its bit pattern. -/
structure Binary64 where
  bits : UInt64
deriving DecidableEq, Inhabited

namespace Binary64

/-- The pattern of a value computed by float arithmetic. -/
def ofFloat (value : Float) : Binary64 := ⟨value.toBits⟩

/-- The value that the pattern stands for. -/
def toFloat (x : Binary64) : Float := Float.ofBits x.bits

/-- The double nearest to a natural number. -/
def ofNat (n : Nat) : Binary64 := ofFloat (Float.ofNat n)

/-- The double nearest to a 64-bit word. -/
def ofWord (n : UInt64) : Binary64 := ofFloat n.toFloat

/-- Positive zero. -/
def zero : Binary64 := ⟨0⟩

/-- Negative zero, the value that leaves every summand unchanged. -/
def negativeZero : Binary64 := ⟨0x8000000000000000⟩

def add (x y : Binary64) : Binary64 := ofFloat (x.toFloat + y.toFloat)

def sub (x y : Binary64) : Binary64 := ofFloat (x.toFloat - y.toFloat)

def mul (x y : Binary64) : Binary64 := ofFloat (x.toFloat * y.toFloat)

def div (x y : Binary64) : Binary64 := ofFloat (x.toFloat / y.toFloat)

def sqrt (x : Binary64) : Binary64 := ofFloat x.toFloat.sqrt

instance : Add Binary64 := ⟨add⟩
instance : Sub Binary64 := ⟨sub⟩
instance : Mul Binary64 := ⟨mul⟩
instance : Div Binary64 := ⟨div⟩

/-- The numeric comparison, in which the two zeros are equal and a NaN
equals nothing, itself included. -/
def numericallyEqual (x y : Binary64) : Bool := x.toFloat == y.toFloat

/-- The numeric comparison `x ≤ y`; it is false as soon as one side is a
NaN. -/
def numericallyLe (x y : Binary64) : Bool := x.toFloat ≤ y.toFloat

/-! ## The parts of a pattern -/

/-- The sign bit. -/
def isNegative (x : Binary64) : Bool := x.bits ≥ 0x8000000000000000

/-- The eleven bits of the exponent field. -/
def exponentField (x : Binary64) : Nat := x.bits.toNat / 0x10000000000000 % 0x800

/-- The 52 bits of the fraction field. -/
def fractionField (x : Binary64) : Nat := x.bits.toNat % 0x10000000000000

def isNaN (x : Binary64) : Bool :=
  x.exponentField == 2047 && x.fractionField != 0

def isInfinite (x : Binary64) : Bool :=
  x.exponentField == 2047 && x.fractionField == 0

def isFinite (x : Binary64) : Bool := x.exponentField != 2047

/-- The same number with the sign bit turned over. -/
def negate (x : Binary64) : Binary64 := ⟨x.bits ^^^ 0x8000000000000000⟩

/-- The whole number by which a finite double counts its unit. -/
def significand (x : Binary64) : Nat :=
  if x.exponentField = 0 then x.fractionField else 0x10000000000000 + x.fractionField

/-- The power of two that is the unit of a finite double's significand. -/
def scale (x : Binary64) : Int :=
  if x.exponentField = 0 then -1074 else (x.exponentField : Int) - 1075

/-- A non-negative fraction of whole numbers. -/
structure Ratio where
  numerator : Nat
  denominator : Nat

/-- The exact absolute value of a finite double. -/
def magnitude (x : Binary64) : Ratio :=
  if 0 ≤ x.scale then ⟨x.significand * Nat.pow 2 x.scale.toNat, 1⟩
  else ⟨x.significand, Nat.pow 2 (-x.scale).toNat⟩

end Binary64

end ReservationLoad

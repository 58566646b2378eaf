import ReservationLoad.Binary64.Basic

/-!
# Decimal digits of a double

Two ways to choose decimal digits for a finite double, both by exact
arithmetic on whole numbers:

* `roundToPlaces` rounds the exact value to a given number of places after
  the point, a half going to the even neighbour;
* `shortest` gives the fewest digits that read back as the same double, and
  among those the ones nearest to it.
-/

namespace ReservationLoad.Binary64

/-- The whole number nearest to a quotient; a half goes to the even
neighbour. -/
def roundQuotient (numerator denominator : Nat) : Nat :=
  let floor := numerator / denominator
  let rest := numerator % denominator
  if 2 * rest < denominator then floor
  else if denominator < 2 * rest then floor + 1
  else if floor % 2 = 0 then floor else floor + 1

/-- The absolute value of a finite double counted in units of
`10 ^ (-places)`, rounded. -/
def roundToPlaces (places : Nat) (x : Binary64) : Nat :=
  roundQuotient (x.magnitude.numerator * Nat.pow 10 places) x.magnitude.denominator

/-- Decimal digits with the position of the point: the number
`digits · 10 ^ exponent`. -/
structure DecimalDigits where
  digits : Nat
  exponent : Int
deriving DecidableEq

namespace DecimalDigits

/-- The same number without zeros at the end of its digits. -/
def trim (d : DecimalDigits) : Nat → DecimalDigits
  | 0 => d
  | fuel + 1 =>
    if d.digits ≠ 0 ∧ d.digits % 10 = 0 then
      trim ⟨d.digits / 10, d.exponent + 1⟩ fuel
    else d

end DecimalDigits

/-- The numbers that round to a given positive double, over one
denominator: those between `low` and `high`, the ends included when
`closed`. -/
structure Basin where
  low : Nat
  value : Nat
  high : Nat
  denominator : Nat
  closed : Bool

/-- The basin of a positive finite double.  Its lower half is half as wide
when the double is a power of two, except at the smallest exponents. -/
def basin (x : Binary64) : Basin :=
  let unit := if x.fractionField = 0 ∧ 1 < x.exponentField then 1 else 2
  let shift := x.scale - 2
  let up := Nat.pow 2 shift.toNat
  let m := x.significand
  { low := (4 * m - unit) * up
    value := 4 * m * up
    high := (4 * m + 2) * up
    denominator := Nat.pow 2 (-shift).toNat
    closed := m % 2 = 0 }

namespace Basin

/-- Does `numerator / denominator` round to the double of this basin? -/
def contains (b : Basin) (numerator denominator : Nat) : Bool :=
  let left := b.low * denominator
  let right := b.high * denominator
  let here := numerator * b.denominator
  if b.closed then left ≤ here && here ≤ right else left < here && here < right

/-- The least `k ≥ start` with `value < 10 ^ k`, looked for in `fuel`
steps. -/
def ascend (b : Basin) : Nat → Nat → Nat
  | 0, k => k
  | fuel + 1, k =>
    if b.value < Nat.pow 10 k * b.denominator then k else ascend b fuel (k + 1)

/-- The greatest `j` with `value · 10 ^ j < 1`, looked for in `fuel`
steps. -/
def descend (b : Basin) : Nat → Nat → Nat
  | 0, j => j
  | fuel + 1, j =>
    if b.value * Nat.pow 10 (j + 1) < b.denominator then descend b fuel (j + 1) else j

/-- The number of digits before the point, negative when zeros follow it:
the `k` with `10 ^ (k - 1) ≤ value < 10 ^ k`. -/
def pointPosition (b : Basin) : Int :=
  if b.value < b.denominator then -(b.descend 330 0 : Int)
  else
    -- Three binary digits make less than one decimal digit.
    b.ascend 330 (((b.value / b.denominator).log2 * 30102) / 100000)

/-- The candidates with the given grid exponent: the two grid points around
the value that read back, the nearer one if both do, and the even one if
both are equally near. -/
def onGrid? (b : Basin) (exponent : Int) : Option DecimalDigits :=
  let up := Nat.pow 10 exponent.toNat
  let down := Nat.pow 10 (-exponent).toNat
  let floor := (b.value * down) / (b.denominator * up)
  let reads := fun (n : Nat) => b.contains (n * up) down
  -- Twice the value against the sum of both grid points.
  let middle := (2 * floor + 1) * up * b.denominator
  let twice := 2 * b.value * down
  let upperNearer : Bool := middle < twice || (middle == twice && floor % 2 == 1)
  match reads floor && floor != 0, reads (floor + 1) with
  | true, true => some ⟨if upperNearer then floor + 1 else floor, exponent⟩
  | true, false => some ⟨floor, exponent⟩
  | false, true => some ⟨floor + 1, exponent⟩
  | false, false => none

/-- The first grid with a candidate, among `fuel` ever finer grids. -/
def firstGrid (b : Basin) : Nat → Int → DecimalDigits
  | 0, exponent => ⟨b.value / b.denominator, exponent⟩
  | fuel + 1, exponent =>
    match b.onGrid? exponent with
    | some found => found
    | none => firstGrid b fuel (exponent - 1)

end Basin

/-- The fewest decimal digits that read back as the given finite double,
the nearest to it among those.  Seventeen digits always read back. -/
def shortest (x : Binary64) : DecimalDigits :=
  if x.significand = 0 then ⟨0, 0⟩
  else
    let b := x.basin
    (b.firstGrid 17 (b.pointPosition - 1)).trim 17

end ReservationLoad.Binary64

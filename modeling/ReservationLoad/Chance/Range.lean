import ReservationLoad.Chance.WordSource

/-!
# Uniform draws from a range

A number below `n` is drawn by multiplying a word by `n`: the upper half of
the 128-bit product is the number, and the lower half decides whether the
word is accepted.  Exactly `2 ^ lz` words are accepted for each number, where
`lz` is the number of leading zero bits of `n`.
-/

namespace ReservationLoad.Chance

/-- The number of leading zero bits of a 64-bit word. -/
def leadingZeros (n : UInt64) : Nat :=
  if n = 0 then 64 else 63 - n.toNat.log2

/-- The greatest lower half of a product that is accepted. -/
def acceptanceBound (n : UInt64) : UInt64 :=
  (n <<< UInt64.ofNat (leadingZeros n)) - 1

/-- The 128-bit product of a word and the size of the range. -/
def product (n word : UInt64) : Nat := word.toNat * n.toNat

/-- Is the word accepted for a draw below `n`? -/
def accepts (n word : UInt64) : Bool :=
  decide (product n word % UInt64.size ≤ (acceptanceBound n).toNat)

/-- The number below `n` that a word selects. -/
def select (n word : UInt64) : Nat := product n word / UInt64.size

/-- A selected number lies in the range. -/
theorem select_lt {n : UInt64} (positive : 0 < n) (word : UInt64) : select n word < n.toNat := by
  have bound := word.toNat_lt
  have range : 0 < n.toNat := UInt64.lt_iff_toNat_lt.1 positive
  unfold select product
  exact Nat.div_lt_of_lt_mul (Nat.mul_lt_mul_of_pos_right bound range)

/-- Even a number that is no 64-bit word bounds the numbers selected below it. -/
theorem select_ofNat_lt {n : Nat} (positive : 0 < n) (word : UInt64) :
    select (UInt64.ofNat n) word < n := by
  have reduced : (UInt64.ofNat n).toNat ≤ n := by
    rw [UInt64.toNat_ofNat']
    exact Nat.mod_le n _
  rcases Nat.eq_zero_or_pos (UInt64.ofNat n).toNat with zero | some
  · simp only [select, product, zero, Nat.mul_zero, Nat.zero_div]
    exact positive
  · exact Nat.lt_of_lt_of_le (select_lt (UInt64.lt_iff_toNat_lt.2 some) word) reduced

/-- The word zero is accepted by every range. -/
theorem accepts_zero (n : UInt64) : accepts n 0 = true := by
  simp [accepts, product]

/-- Draws words until one is accepted.  A source that has refused as many
words as its patience allows would refuse for ever; its next word is taken as
it is. -/
def drawBelowWithin {σ : Type} [WordSource σ] (n : UInt64) : Nat → σ → Nat × σ
  | 0, source =>
    let (word, later) := WordSource.next source
    (select n word, later)
  | patience + 1, source =>
    let (word, later) := WordSource.next source
    if accepts n word then (select n word, later)
    else drawBelowWithin n patience later

/-- A number below `n`, for a positive `n`. -/
def drawBelow {σ : Type} [WordSource σ] (n : UInt64) (source : σ) : Nat × σ :=
  drawBelowWithin n (WordSource.patience source) source

theorem drawBelowWithin_lt {σ : Type} [WordSource σ] {n : Nat} (positive : 0 < n)
    (patience : Nat) (source : σ) : (drawBelowWithin (UInt64.ofNat n) patience source).1 < n := by
  induction patience generalizing source with
  | zero => exact select_ofNat_lt positive _
  | succ patience ih =>
    simp only [drawBelowWithin]
    split
    · exact select_ofNat_lt positive _
    · exact ih _

/-- A drawn number lies in the range. -/
theorem drawBelow_lt {σ : Type} [WordSource σ] {n : Nat} (positive : 0 < n) (source : σ) :
    (drawBelow (UInt64.ofNat n) source).1 < n :=
  drawBelowWithin_lt positive _ source

end ReservationLoad.Chance

import ReservationLoad.Proofs.Report.Figures

/-!
# Percentiles in any number of thousandths

The place of a percentile is the number of samples times the thousandths, divided
by a thousand and cut to the last sample.  As long as the product is a word of 64
bits the place is the exact one, so that everything from the thousandth thousandth
on is the last sample and no percentile is below a smaller one.  For any other
product there is no percentile if the arithmetic is checked.  If it wraps around,
the place may be far too low (`percentile_of_wrapped_product`).  Every list of two
samples or more has such a product.
-/

namespace ReservationLoad

open Binary64 Wire

/-- The place of a percentile in exact arithmetic. -/
def exactPlace (count : Nat) (perMille : UInt64) : Nat :=
  min (count * perMille.toNat / 1000) (count - 1)

/-- The place of a percentile in arithmetic that wraps around. -/
def wrappedPlace (count : Nat) (perMille : UInt64) : Nat :=
  min (count * perMille.toNat % UInt64.size / 1000) (count - 1)

variable {arithmetic : Arithmetic} {count : Nat} {perMille lower : UInt64}
  {ascending : List Binary64}

/-! ## Places -/

theorem exactPlace_eq_last (thousand : 1000 ≤ perMille.toNat) :
    exactPlace count perMille = count - 1 := by
  have product : count * 1000 ≤ count * perMille.toNat := Nat.mul_le_mul_left count thousand
  rw [exactPlace]
  omega

theorem exactPlace_mono (ordered : lower ≤ perMille) :
    exactPlace count lower ≤ exactPlace count perMille := by
  have product : count * lower.toNat ≤ count * perMille.toNat :=
    Nat.mul_le_mul_left count (UInt64.le_iff_toNat_le.mp ordered)
  rw [exactPlace, exactPlace]
  omega

/-- A product that wraps around still leads to the last sample if enough of it is
left. -/
theorem wrappedPlace_eq_iff (some : 0 < count) (small : 1000 * count ≤ UInt64.size) :
    wrappedPlace count perMille = exactPlace count perMille ↔
      count * perMille.toNat < UInt64.size ∨
        1000 * (count - 1) ≤ count * perMille.toNat % UInt64.size := by
  by_cases fits : count * perMille.toNat < UInt64.size
  · refine iff_of_true ?_ (.inl fits)
    rw [wrappedPlace, exactPlace, Nat.mod_eq_of_lt fits]
  · rw [wrappedPlace, exactPlace]
    omega

/-- Two samples or more have a product behind the words that leaves almost nothing
when it wraps around: the first one. -/
theorem exists_product_wraps (two : 2 ≤ count) :
    ∃ perMille : UInt64, ∃ rest < count, count * perMille.toNat = UInt64.size + rest := by
  have parts := Nat.div_add_mod (UInt64.size - 1) count
  have remainder := Nat.mod_lt (UInt64.size - 1) (Nat.zero_lt_of_lt two)
  have quotient : (UInt64.size - 1) / count ≤ (UInt64.size - 1) / 2 :=
    Nat.div_le_div_left two (by decide)
  have word : (UInt64.size - 1) / count + 1 < UInt64.size := by
    have half : (UInt64.size - 1) / 2 + 1 < UInt64.size := by decide
    omega
  have size : 0 < UInt64.size := by decide
  refine ⟨UInt64.ofNat ((UInt64.size - 1) / count + 1),
    count - 1 - (UInt64.size - 1) % count, by omega, ?_⟩
  rw [UInt64.toNat_ofNat_of_lt' word, Nat.mul_succ]
  omega

/-! ## Percentiles -/

/-- A product that is a word leads to the sample at the exact place. -/
theorem percentile_of_lt (some : 0 < ascending.length) (few : ascending.length < UInt64.size)
    (fits : ascending.length * perMille.toNat < UInt64.size) :
    ∃ x, percentile arithmetic ascending perMille = .ok x ∧
      ascending[exactPlace ascending.length perMille]? = .some x :=
  percentile_eq_getElem? some (percentileIndex_of_lt few fits)

/-- Checked arithmetic has no percentile for any other product, -/
theorem percentile_checked_of_le (few : ascending.length < UInt64.size)
    (large : UInt64.size ≤ ascending.length * perMille.toNat) :
    percentile .checked ascending perMille = .error .multiplication := by
  rw [percentile, percentileIndex, mul_ofNat few, Arithmetic.settle_checked_of_le large]
  rfl

/-- and arithmetic that wraps around takes the sample at the place that is left. -/
theorem percentile_wrapping (some : 0 < ascending.length)
    (few : ascending.length < UInt64.size) (perMille : UInt64) :
    ∃ x, percentile .wrapping ascending perMille = .ok x ∧
      ascending[wrappedPlace ascending.length perMille]? = .some x := by
  apply percentile_eq_getElem? some
  rw [percentileIndex, mul_ofNat few, Arithmetic.settle_wrapping, map_ok, UInt64.toNat_div,
    UInt64.toNat_ofNat']
  rfl

/-- A percentile is one of the samples, wherever that is. -/
theorem exists_place (some : 0 < ascending.length) {x : Binary64}
    (found : percentile arithmetic ascending perMille = .ok x) :
    ∃ place : Nat, ascending[place]? = .some x := by
  obtain ⟨index, indexed, -⟩ := exists_of_map_eq_ok found
  obtain ⟨y, found', atPlace⟩ := percentile_eq_getElem? some indexed
  cases found'.symm.trans found
  exact ⟨_, atPlace⟩

/-- A later place of an ascending list has no smaller sample. -/
theorem totalLe_getElem? (sorted : ascending.Pairwise fun x y => totalLe x y = true)
    {front back : Nat} {x y : Binary64} (ordered : front ≤ back)
    (atFront : ascending[front]? = some x) (atBack : ascending[back]? = some y) :
    totalLe x y = true := by
  obtain ⟨before, rfl⟩ := List.getElem?_eq_some_iff.mp atFront
  obtain ⟨inside, rfl⟩ := List.getElem?_eq_some_iff.mp atBack
  exact totalLe_getElem sorted before ordered inside

/-- As long as the product of the number of samples and the thousandths is a word,
a percentile is the sample at its exact place.  Beyond that there is none in checked
arithmetic, and the place of the other arithmetic is exact only if what is left of
the product still leads to the last sample.  So only a single sample has every
percentile. -/
theorem percentile_exact_without_overflow (some : 0 < ascending.length)
    (few : ascending.length < UInt64.size) :
    (∀ arithmetic perMille, ascending.length * perMille.toNat < UInt64.size →
      ∃ x, percentile arithmetic ascending perMille = .ok x ∧
        ascending[exactPlace ascending.length perMille]? = .some x ∧
        (1000 ≤ perMille.toNat → ascending.getLast? = .some x) ∧
        ((ascending.Pairwise fun x y => totalLe x y = true) → ∀ lower ≤ perMille,
          ∃ y, percentile arithmetic ascending lower = .ok y ∧ totalLe y x = true)) ∧
    (∀ perMille, UInt64.size ≤ ascending.length * perMille.toNat →
      percentile .checked ascending perMille = .error .multiplication ∧
        ∃ x, percentile .wrapping ascending perMille = .ok x ∧
          ascending[wrappedPlace ascending.length perMille]? = .some x) ∧
    ((∀ perMille, ∃ x, percentile .checked ascending perMille = .ok x) ↔
      ascending.length = 1) ∧
    (1000 * ascending.length ≤ UInt64.size →
      (∀ perMille, wrappedPlace ascending.length perMille =
          exactPlace ascending.length perMille ↔
        ascending.length * perMille.toNat < UInt64.size ∨
          1000 * (ascending.length - 1) ≤ ascending.length * perMille.toNat % UInt64.size) ∧
      ((∀ perMille, wrappedPlace ascending.length perMille =
          exactPlace ascending.length perMille) ↔ ascending.length = 1)) := by
  refine ⟨?exact, ?overflow, ?single, fun small => ⟨?wrapped, ?wrappedSingle⟩⟩
  case exact =>
    intro arithmetic perMille fits
    obtain ⟨x, found, atPlace⟩ := percentile_of_lt some few fits
    refine ⟨x, found, atPlace, ?_, ?_⟩
    · intro thousand
      rw [List.getLast?_eq_getElem?, ← exactPlace_eq_last thousand]
      exact atPlace
    · intro sorted lower ordered
      have product : ascending.length * lower.toNat ≤ ascending.length * perMille.toNat :=
        Nat.mul_le_mul_left _ (UInt64.le_iff_toNat_le.mp ordered)
      obtain ⟨y, found', atPlace'⟩ :=
        percentile_of_lt some few (Nat.lt_of_le_of_lt product fits)
      exact ⟨y, found', totalLe_getElem? sorted (exactPlace_mono ordered) atPlace' atPlace⟩
  case overflow =>
    exact fun perMille large =>
      ⟨percentile_checked_of_le few large, percentile_wrapping some few perMille⟩
  case single =>
    constructor
    · intro all
      apply Decidable.of_not_not
      intro several
      have two : 2 ≤ ascending.length := Nat.lt_of_le_of_ne some (Ne.symm several)
      obtain ⟨perMille, rest, -, product⟩ := exists_product_wraps two
      obtain ⟨x, found⟩ := all perMille
      rw [percentile_checked_of_le few (by omega)] at found
      cases found
    · intro single perMille
      have fits : ascending.length * perMille.toNat < UInt64.size := by
        rw [single, Nat.one_mul]
        exact perMille.toNat_lt
      obtain ⟨x, found, -⟩ := percentile_of_lt some few fits
      exact ⟨x, found⟩
  case wrapped => exact fun perMille => wrappedPlace_eq_iff some small
  case wrappedSingle =>
    constructor
    · intro all
      apply Decidable.of_not_not
      intro several
      have two : 2 ≤ ascending.length := Nat.lt_of_le_of_ne some (Ne.symm several)
      obtain ⟨perMille, rest, below, product⟩ := exists_product_wraps two
      have exact := (wrappedPlace_eq_iff some small).mp (all perMille)
      rw [product, Nat.add_mod_left, Nat.mod_eq_of_lt (by omega)] at exact
      omega
    · intro single perMille
      rw [single, wrappedPlace, exactPlace]
      omega

/-- The last percentile of two samples whose product is a word, and the first whose
product is none. -/
theorem percentile_exact_without_overflow_of_two :
    let samples : List Binary64 := [⟨0x3ff0000000000000⟩, ⟨0x4000000000000000⟩]
    0 < samples.length ∧ samples.length < UInt64.size ∧
      percentile .checked samples 0x7fffffffffffffff = .ok ⟨0x4000000000000000⟩ ∧
      percentile .checked samples 0x8000000000000000 = .error .multiplication := by
  intro samples
  obtain ⟨exact, overflow, -, -⟩ :=
    @percentile_exact_without_overflow samples (by decide) (by decide)
  obtain ⟨x, found, -, last, -⟩ := exact .checked 0x7fffffffffffffff (by decide)
  cases last (by decide)
  exact ⟨by decide, by decide, found, (overflow 0x8000000000000000 (by decide)).1⟩

/-- The product of two samples and 2⁶³ thousandths is no word.  There is no percentile
if that is checked.  If it wraps around, the percentile is not the last of the samples
but the first, although the last is the one of a thousand thousandths already. -/
theorem percentile_of_wrapped_product :
    let samples : List Binary64 := [⟨0x3ff0000000000000⟩, ⟨0x4000000000000000⟩]
    percentile .checked samples 0x8000000000000000 = .error .multiplication ∧
      percentile .wrapping samples 0x8000000000000000 = .ok ⟨0x3ff0000000000000⟩ ∧
      samples[exactPlace samples.length 0x8000000000000000]? = .some ⟨0x4000000000000000⟩ ∧
      ∀ arithmetic, percentile arithmetic samples 1000 = .ok ⟨0x4000000000000000⟩ := by
  refine ⟨rfl, rfl, rfl, fun arithmetic => ?_⟩
  cases arithmetic <;> rfl

end ReservationLoad

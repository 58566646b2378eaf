import ReservationLoad.Proofs.Binary64.Value
import ReservationLoad.Proofs.Text.Digits

/-!
# Printed doubles

A figure of a report is printed as a decimal with two places behind its point: a
sign, a whole number without needless zeros, and two digits.  Such a decimal can be
read off its text, and the text of a finite double is the text of the nearest one.
So figures are printed in the order in which they are.
-/

namespace ReservationLoad

/-- A decimal with exactly two places behind its point. -/
structure TwoPlaces where
  negative : Bool
  whole : Nat
  tenth : Fin 10
  hundredth : Fin 10

namespace TwoPlaces

/-- The decimal as it is written: there is no exponent. -/
def chars (d : TwoPlaces) : List Char :=
  (if d.negative then ['-'] else []) ++ Decimal.ofNat d.whole ++
    ['.', Nat.digitChar d.tenth, Nat.digitChar d.hundredth]

def text (d : TwoPlaces) : String := String.ofList d.chars

def absolute (d : TwoPlaces) : ℚ := d.whole + d.tenth / 10 + d.hundredth / 100

/-- The number that is written. -/
def value (d : TwoPlaces) : ℚ := if d.negative then -d.absolute else d.absolute

/-- Digits start with no sign, so it is told from them. -/
theorem signed_injective {negative negative' : Bool} {m n : Nat}
    (same : (if negative then ['-'] else []) ++ Decimal.ofNat m =
      (if negative' then ['-'] else []) ++ Decimal.ofNat n) :
    negative = negative' ∧ m = n := by
  cases negative <;> cases negative'
  · exact ⟨rfl, Decimal.ofNat_injective same⟩
  · exact absurd same (Decimal.ofNat_ne_minus m _)
  · exact absurd same.symm (Decimal.ofNat_ne_minus n _)
  · exact ⟨rfl, Decimal.ofNat_injective (List.tail_eq_of_cons_eq same)⟩

/-- A text is read in one way only. -/
theorem text_injective : Function.Injective text := by
  have digits : ∀ i j : Fin 10, Nat.digitChar i = Nat.digitChar j → i = j := by decide
  intro d e same
  obtain ⟨front, behind⟩ := List.append_inj' (String.ofList_injective same) rfl
  obtain ⟨sign, whole⟩ := signed_injective front
  simp only [List.cons.injEq, true_and, and_true] at behind
  cases d
  cases e
  simp_all only
  congr 1
  · exact digits _ _ behind.1
  · exact digits _ _ behind.2

/-! ## Counting hundredths -/

/-- The decimal of a number of hundredths. -/
def ofHundredths (negative : Bool) (n : Nat) : TwoPlaces where
  negative
  whole := n / 100
  tenth := ⟨n / 10 % 10, Nat.mod_lt _ (by decide)⟩
  hundredth := ⟨n % 10, Nat.mod_lt _ (by decide)⟩

/-- How many hundredths the decimal has. -/
def count (d : TwoPlaces) : ℤ :=
  let n : ℤ := (d.whole * 100 + d.tenth * 10 + d.hundredth : Nat)
  if d.negative then -n else n

theorem value_eq_count (d : TwoPlaces) : d.value = d.count / 100 := by
  unfold value absolute count
  cases d.negative <;> simp <;> ring

theorem even_count (d : TwoPlaces) : Even d.count ↔ Even d.hundredth.val := by
  have parity : Even (d.whole * 100 + d.tenth * 10 + d.hundredth : Nat) ↔
      Even d.hundredth.val := by
    rw [Nat.even_iff, Nat.even_iff]
    omega
  unfold count
  cases d.negative with
  | false => exact (Int.even_coe_nat _).trans parity
  | true => exact (even_neg.trans (Int.even_coe_nat _)).trans parity

theorem count_ofHundredths (negative : Bool) (n : Nat) :
    (ofHundredths negative n).count = if negative then -(n : ℤ) else n := by
  have parts : n / 100 * 100 + n / 10 % 10 * 10 + n % 10 = n := by omega
  unfold count ofHundredths
  simp only [parts]

theorem text_ofHundredths (negative : Bool) (n : Nat) : (ofHundredths negative n).chars =
    (if negative then ['-'] else []) ++ Binary64.hundredthsText n := by
  have places : ∀ k < 100, Decimal.padLeft 2 (Decimal.ofNat k) =
      [Nat.digitChar (k / 10), Nat.digitChar (k % 10)] := by decide
  have tenth : n % 100 / 10 = n / 10 % 10 := by omega
  have hundredth : n % 100 % 10 = n % 10 := by omega
  rw [chars, Binary64.hundredthsText, places _ (Nat.mod_lt _ (by decide)), tenth, hundredth,
    ofHundredths, List.append_assoc]

/-! ## Rounding -/

/-- The decimal is what a double is rounded to: none with two places is nearer, of
two that are equally near it has the even digit, and its sign is that of the
double. -/
structure Rounds (d : TwoPlaces) (x : Binary64) : Prop where
  sign : d.negative = x.isNegative
  nearest : ∀ e : TwoPlaces, |x.value - d.value| ≤ |x.value - e.value|
  even : ∀ e : TwoPlaces, e.value ≠ d.value → |x.value - e.value| = |x.value - d.value| →
    Even d.hundredth.val

end TwoPlaces

namespace Binary64

variable {x y : Binary64}

/-- The decimal that is printed for a finite double. -/
def printed (x : Binary64) : TwoPlaces := .ofHundredths x.isNegative (x.roundToPlaces 2)

theorem twoPlaces_eq (finite : x.isFinite = true) : x.twoPlaces = x.printed.text := by
  have exponent : (x.exponentField == 2047) = false := by
    rw [isFinite, bne, Bool.not_eq_true'] at finite
    exact finite
  unfold twoPlaces
  rw [isNaN, isInfinite, exponent, Bool.false_and, Bool.false_and, if_neg Bool.false_ne_true,
    if_neg Bool.false_ne_true, TwoPlaces.text, printed, TwoPlaces.text_ofHundredths]
  rfl

theorem isNearest_printed (x : Binary64) : IsNearest (x.value * 100) x.printed.count := by
  have nearest := isNearest_roundToPlaces 2 x
  have hundred : (10 : ℚ) ^ 2 = 100 := by norm_num
  rw [hundred] at nearest
  rw [printed, TwoPlaces.count_ofHundredths, value]
  cases x.isNegative with
  | false => exact nearest
  | true =>
      rw [if_pos rfl, if_pos rfl, neg_mul]
      exact nearest.neg

/-- Distances in hundredths. -/
theorem abs_sub_value (x : Binary64) (d : TwoPlaces) :
    |x.value - d.value| = |x.value * 100 - d.count| / 100 := by
  rw [d.value_eq_count, ← abs_of_pos (by norm_num : (0 : ℚ) < 100), ← abs_div,
    abs_of_pos (by norm_num : (0 : ℚ) < 100)]
  congr 1
  ring

theorem rounds_printed (x : Binary64) : x.printed.Rounds x where
  sign := rfl
  nearest e := by
    rw [abs_sub_value, abs_sub_value]
    exact div_le_div_of_nonneg_right (x.isNearest_printed.near e.count) (by norm_num)
  even e other tie := by
    rw [← TwoPlaces.even_count]
    rw [abs_sub_value, abs_sub_value, div_left_inj' (by norm_num)] at tie
    refine x.isNearest_printed.even e.count (fun same => other ?_) tie
    rw [TwoPlaces.value_eq_count, TwoPlaces.value_eq_count, same]

/-- Figures are printed in their order. -/
theorem printed_le (ordered : x.value ≤ y.value) : x.printed.value ≤ y.printed.value := by
  have hundredfold : x.value * 100 ≤ y.value * 100 :=
    mul_le_mul_of_nonneg_right ordered (by norm_num)
  have counts := x.isNearest_printed.mono y.isNearest_printed hundredfold
  rw [TwoPlaces.value_eq_count, TwoPlaces.value_eq_count]
  have cast : (x.printed.count : ℚ) ≤ y.printed.count := by exact_mod_cast counts
  exact div_le_div_of_nonneg_right cast (by norm_num)

end Binary64

end ReservationLoad

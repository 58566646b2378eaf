import ReservationLoad.Proofs.Json.Numeral

/-!
# The token of a double is a numeral

Whatever digits are chosen for a double, they are written as a numeral of JSON:
some digit stands in front of the point and some digit behind it, and no zero
comes first without need.  The one danger is a zero with places of its own in
front of the point; the choice of digits never leads there.
-/

namespace ReservationLoad.Binary64

/-- A zero has no places in front of the point. -/
def DecimalDigits.Placed (d : DecimalDigits) : Prop := d.digits = 0 → d.exponent ≤ 0

theorem DecimalDigits.placed_trim {d : DecimalDigits} (placed : d.Placed) (fuel : Nat) :
    (d.trim fuel).Placed := by
  induction fuel generalizing d with
  | zero => exact placed
  | succ fuel ih =>
      rw [trim]
      split
      next ends =>
        apply ih
        intro isZero
        have large : d.digits / 10 = 0 := isZero
        omega
      next => exact placed

theorem Basin.digits_ne_zero_of_onGrid {b : Basin} {exponent : Int} {found : DecimalDigits}
    (grid : b.onGrid? exponent = some found) : found.digits ≠ 0 := by
  unfold onGrid? at grid
  simp only at grid
  split at grid
  next below above =>
    simp only [Bool.and_eq_true, bne_iff_ne, ne_eq] at below
    cases grid
    simp only
    split
    · exact Nat.succ_ne_zero _
    · exact below.2
  next below above =>
    simp only [Bool.and_eq_true, bne_iff_ne, ne_eq] at below
    cases grid
    exact below.2
  next =>
    cases grid
    exact Nat.succ_ne_zero _
  next => cases grid

theorem Basin.placed_firstGrid {b : Basin} (fuel : Nat) {exponent : Int}
    (small : b.value / b.denominator = 0 → exponent ≤ 0) : (b.firstGrid fuel exponent).Placed := by
  induction fuel generalizing exponent with
  | zero => exact small
  | succ fuel ih =>
      rw [firstGrid]
      split
      next found grid => exact fun isZero => absurd isZero (digits_ne_zero_of_onGrid grid)
      next =>
        apply ih
        intro isZero
        have := small isZero
        omega

theorem placed_shortest (x : Binary64) : x.shortest.Placed := by
  unfold shortest
  split
  next => exact fun _ => Int.le_refl 0
  next =>
    apply DecimalDigits.placed_trim
    apply Basin.placed_firstGrid
    intro isZero
    -- A value below one has no digit in front of the point.
    have positive : 0 < x.basin.denominator := Nat.pow_pos (by decide)
    have below : x.basin.value < x.basin.denominator := by
      rcases Nat.div_eq_zero_iff.mp isZero with none | below
      · omega
      · exact below
    rw [Basin.pointPosition, if_pos below]
    omega

end ReservationLoad.Binary64

namespace ReservationLoad.Json

open Binary64

theorem isUnsigned_pointed {whole digits : List Char} (isWhole : IsWhole whole)
    (isDigits : IsDigits digits) : IsUnsigned (whole ++ '.' :: digits) := by
  have parts := IsUnsigned.parts isWhole (.point isDigits) .none
  rwa [List.append_nil] at parts

theorem isWhole_append_zeros {n zeros : Nat} (placed : n = 0 → zeros = 0) :
    IsWhole (Decimal.ofNat n ++ List.replicate zeros '0') := by
  apply isWhole_of_alone
  · intro c member
    rcases List.mem_append.mp member with digit | zero
    · exact Decimal.isDigit_of_mem_ofNat digit
    · rw [List.eq_of_mem_replicate zero]
      rfl
  · simp [Decimal.ofNat_ne_nil n]
  · rcases List.exists_cons_of_ne_nil (Decimal.ofNat_ne_nil n) with ⟨first, more, same⟩
    intro others zero
    rw [same, List.cons_append] at zero
    cases zero
    rw [placed (Decimal.eq_zero_of_ofNat same), Decimal.alone_of_ofNat same]
    rfl

theorem isWhole_take {n places : Nat} (some : 0 < places) :
    IsWhole ((Decimal.ofNat n).take places) := by
  rcases List.exists_cons_of_ne_nil (Decimal.ofNat_ne_nil n) with ⟨first, more, same⟩
  apply isWhole_of_alone
  · exact fun c member => Decimal.isDigit_of_mem_ofNat (List.mem_of_mem_take member)
  · rw [same, List.take_cons some]
    exact List.cons_ne_nil _ _
  · intro others zero
    rw [same, List.take_cons some] at zero
    cases zero
    rw [Decimal.alone_of_ofNat same, List.take_nil]

theorem isUnsigned_positional {d : DecimalDigits} (placed : d.Placed) :
    IsUnsigned d.positional := by
  have digits := isDigits_ofNat d.digits
  unfold DecimalDigits.positional
  simp only
  split
  next whole =>
    -- Zeros behind the digits, and one behind the point.
    refine isUnsigned_pointed (isWhole_append_zeros fun isZero => ?_) ⟨by simp, by simp⟩
    have := placed isZero
    omega
  next fraction =>
    split
    next inside =>
      -- The point stands between two digits.
      refine isUnsigned_pointed (isWhole_take (by omega))
        ⟨?_, fun c member => digits.2 c (List.mem_of_mem_drop member)⟩
      rw [ne_eq, List.drop_eq_nil_iff]
      omega
    next =>
      -- Zeros behind the point, and then the digits.
      refine isUnsigned_pointed .zero ⟨by simp [digits.1], fun c member => ?_⟩
      rcases List.mem_append.mp member with zero | digit
      · rw [List.eq_of_mem_replicate zero]
        rfl
      · exact digits.2 c digit

/-- The first of several digits may have the others behind a point. -/
theorem isWhole_first {first second : Char} {more : List Char} {n : Nat}
    (digits : Decimal.ofNat n = first :: second :: more) :
    IsWhole [first] ∧ IsPlaces ('.' :: second :: more) := by
  have all := isDigits_ofNat n
  rw [digits] at all
  constructor
  · refine .digits ?_ (all.2 first List.mem_cons_self) (by simp)
    rintro rfl
    exact absurd (Decimal.alone_of_ofNat digits) (by simp)
  · exact .point ⟨by simp, fun c member => all.2 c (List.mem_cons_of_mem first member)⟩

theorem isUnsigned_scientific (d : DecimalDigits) : IsUnsigned d.scientific := by
  have scale (exponent : Int) :
      IsScale ((if exponent < 0 then ['e', '-'] else ['e', '+']) ++
        Decimal.ofNat exponent.natAbs) := by
    split
    · exact .signed (.inl rfl) (.inr rfl) (isDigits_ofNat _)
    · exact .signed (.inl rfl) (.inl rfl) (isDigits_ofNat _)
  have isWhole := isWhole_ofNat d.digits
  unfold DecimalDigits.scientific
  simp only [List.append_assoc]
  split
  next first second more digits =>
    rcases isWhole_first digits with ⟨front, places⟩
    exact @IsUnsigned.parts [first] _ _ front places (scale _)
  next => exact @IsUnsigned.parts _ [] _ isWhole .none (scale _)

/-- The characters of the token of a double. -/
def tokenChars (x : Binary64) : List Char :=
  let exponent : Int := (Decimal.ofNat x.shortest.digits).length + x.shortest.exponent - 1
  x.signText ++
    if -5 ≤ exponent ∧ exponent ≤ 15 then x.shortest.positional else x.shortest.scientific

theorem toList_tokenText (x : Binary64) : x.tokenText.toList = tokenChars x := String.toList_ofList

/-- A double is written as a numeral. -/
theorem isNumeral_tokenText (x : Binary64) : IsNumeral x.tokenText.toList := by
  have unsigned (small : Prop) [Decidable small] :
      IsUnsigned (if small then x.shortest.positional else x.shortest.scientific) := by
    split
    · exact isUnsigned_positional x.placed_shortest
    · exact isUnsigned_scientific x.shortest
  rw [toList_tokenText, tokenChars, signText]
  split
  · exact .negative (unsigned _)
  · exact .positive (unsigned _)

end ReservationLoad.Json

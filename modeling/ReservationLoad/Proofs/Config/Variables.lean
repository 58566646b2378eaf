import ReservationLoad.Config.Environment
import ReservationLoad.Proofs.Text.Numerals

/-!
# Numeric variables

A numeric variable is read if its text is a numeral of a 64-bit word with any
amount of white space around it.  There is no second spelling of a number, and
no text is read as a number that it does not stand for: whatever else the text
may be, it is refused with a fault that names the variable and repeats its text.
-/

namespace ReservationLoad.Config

/-- A text that stands for a number: a numeral, which white space may surround. -/
def StandsFor (raw : String) (n : Nat) : Prop :=
  ∃ numeral, Text.Padded numeral raw.toList ∧ Text.IsNumeral numeral n

/-- A text with a flaw in what white space may surround, so that it is no numeral of
a word. -/
def IsFlawed (raw : String) (cause : Text.NumeralFault) : Prop :=
  ∃ text, Text.Padded text raw.toList ∧ Text.Tight text ∧ Text.Flawed UInt64.size text cause

/-- There is a flaw just in what stands for no word. -/
theorem exists_isFlawed_iff {raw : String} :
    (∃ cause, IsFlawed raw cause) ↔ ∀ v : UInt64, ¬ StandsFor raw v.toNat := by
  simp only [IsFlawed, StandsFor, ← Text.readWord_trimBlank_eq_error_iff,
    ← Text.readWord_trimBlank_eq_ok_iff]
  cases Text.readWord (Text.trimBlank raw.toList) with
  | ok number => exact ⟨nofun, fun none => absurd rfl (none number)⟩
  | error cause => exact ⟨fun _ => nofun, fun _ => ⟨cause, rfl⟩⟩

namespace Variable

theorem read_eq_ok_iff (which : Variable) {raw : String} {v : UInt64} :
    which.read raw = .ok v ↔ StandsFor raw v.toNat := by
  rw [StandsFor, ← Text.readWord_trimBlank_eq_ok_iff, read]
  cases Text.readWord (Text.trimBlank raw.toList) with
  | ok number => exact ⟨fun | rfl => rfl, fun | rfl => rfl⟩
  | error cause => exact ⟨nofun, nofun⟩

/-- A text is refused only with its own fault. -/
theorem read_eq_error_iff (which : Variable) {raw : String} {fault : Fault} :
    which.read raw = .error fault ↔
      ∃ cause, IsFlawed raw cause ∧ fault = .badVariable which.name raw cause := by
  simp only [IsFlawed, ← Text.readWord_trimBlank_eq_error_iff, read]
  cases Text.readWord (Text.trimBlank raw.toList) with
  | ok number => exact ⟨nofun, fun | ⟨_, refused, _⟩ => nomatch refused⟩
  | error cause =>
      constructor
      · rintro ⟨⟩
        exact ⟨cause, rfl, rfl⟩
      · rintro ⟨_, ⟨⟩, rfl⟩
        rfl

theorem standsFor_ofNat (n : Nat) {front behind : List Char}
    (blankFront : ∀ c ∈ front, Text.isBlank c = true)
    (blankBehind : ∀ c ∈ behind, Text.isBlank c = true) :
    StandsFor (String.ofList (front ++ (toString n).toList ++ behind)) n := by
  refine ⟨(toString n).toList, ?_, ?_⟩
  · rw [String.toList_ofList]
    exact .mk blankFront blankBehind
  · rw [Decimal.toList_toString]
    exact Text.isNumeral_ofNat n

/-- A variable is read just when its text stands for a word, and then as this
word.  Every other text is refused by a fault that names the variable and quotes
the text, and the decimal digits of a word always stand for it. -/
theorem read_characterized (which : Variable) :
    (∀ raw v, which.read raw = .ok v ↔ StandsFor raw v.toNat) ∧
      (∀ raw, (∃ fault, which.read raw = .error fault) ↔
        ∀ n, StandsFor raw n → UInt64.size ≤ n) ∧
      (∀ raw fault, which.read raw = .error fault → ∃ cause,
        fault = .badVariable which.name raw cause ∧
          fault.chain =
            ["Invalid value for " ++ which.name ++ ": " ++ Text.quoted raw, cause.message]) ∧
      ∀ (v : UInt64) (front behind : List Char), (∀ c ∈ front, Text.isBlank c = true) →
        (∀ c ∈ behind, Text.isBlank c = true) →
          which.read (String.ofList (front ++ (toString v.toNat).toList ++ behind)) = .ok v := by
  refine ⟨fun raw v => which.read_eq_ok_iff, fun raw => ⟨?_, ?_⟩, ?_, ?_⟩
  · rintro ⟨fault, refused⟩ n stands
    apply Nat.le_of_not_lt
    intro below
    have word : (UInt64.ofNat n).toNat = n := UInt64.toNat_ofNat_of_lt' below
    rw [← word, ← which.read_eq_ok_iff, refused] at stands
    cases stands
  · intro large
    cases read : which.read raw with
    | error fault => exact ⟨fault, rfl⟩
    | ok v =>
        have above := large _ (which.read_eq_ok_iff.mp read)
        exact absurd v.toNat_lt (Nat.not_lt.mpr above)
  · intro raw fault refused
    obtain ⟨cause, -, rfl⟩ := which.read_eq_error_iff.mp refused
    exact ⟨cause, rfl, rfl⟩
  · intro v front behind blankFront blankBehind
    exact which.read_eq_ok_iff.mpr (standsFor_ofNat v.toNat blankFront blankBehind)

/-- The greatest word between an em space, a tab and a no-break space, and the
number behind it. -/
theorem read_characterized_at_the_limit :
    seed.read (String.ofList
        (['\u2003', '\t'] ++ (toString (18446744073709551615 : UInt64).toNat).toList ++
          ['\u00a0'])) = .ok 18446744073709551615 ∧
      ∃ cause, seed.read "+18446744073709551616" =
        .error (.badVariable "STRESS_SEED" "+18446744073709551616" cause) := by
  obtain ⟨-, -, refused, digits⟩ := read_characterized seed
  refine ⟨digits _ _ _ (List.all_eq_true.mp (by decide)) (List.all_eq_true.mp (by decide)), ?_⟩
  have unread : ∃ fault, seed.read "+18446744073709551616" = .error fault := ⟨_, rfl⟩
  obtain ⟨fault, unread⟩ := unread
  obtain ⟨cause, rfl, -⟩ := refused _ _ unread
  exact ⟨cause, unread⟩

-- Zeros in front and a plus sign are fine; signs below, marks and other digits are not.
example : (seed.read " +0007 ").toOption = some 7 := by decide +kernel

example : ["", " ", "+", "-0", "+-1", "1 2", "1_000", "\u0667"].map
    (fun raw => (seed.read raw).toOption) = List.replicate 8 none := by
  decide +kernel

end Variable

end ReservationLoad.Config

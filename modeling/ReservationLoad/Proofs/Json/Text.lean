import ReservationLoad.Proofs.Json.Grammar

/-!
# Reading and writing strings

A spelled string is read back as its characters, and any string is passed over as
a whole.  Every string can be written: the escapes of `quote` spell each character,
control characters by their code.
-/

namespace ReservationLoad.Json

theorem simpleEscape?_ne_u {letter c : Char} (escapes : simpleEscape? letter = some c) :
    letter ≠ 'u' := by
  rintro rfl
  cases escapes

theorem Spelled.readText_eq {chars text rest : List Char} (spelled : Spelled chars text rest) :
    readText text = .ok (chars, rest) := by
  induction spelled with
  | close => rw [readText]
  | plain visible noQuote noBackslash _ ih =>
      rw [readText, if_neg (Nat.not_lt.mpr visible), ih]
      · rfl
      · exact noQuote
      all_goals
        intros
        contradiction
  | escape escapes _ ih =>
      rw [readText, escapes, ih]
      · rfl
      · intros
        exact absurd ‹_› (simpleEscape?_ne_u escapes)
      · intros
        exact absurd ‹_› (simpleEscape?_ne_u escapes)
  | @code _ _ _ _ code _ _ _ hex single _ ih =>
      have noLow : ¬ (0xDC00 ≤ code ∧ code ≤ 0xDFFF) := by
        unfold IsSurrogate at single
        omega
      have noHigh : code < 0xD800 ∨ 0xDBFF < code := by
        unfold IsSurrogate at single
        omega
      rw [readText, hex, ih]
      simp only [if_neg noLow, if_pos noHigh]
      rfl
  | @pair _ _ _ _ _ _ _ _ high low _ _ _ hexHigh hexLow isHigh isLow _ ih =>
      have noLow : ¬ (0xDC00 ≤ high ∧ high ≤ 0xDFFF) := by omega
      have paired : ¬ (high < 0xD800 ∨ 0xDBFF < high) := by omega
      rw [readText, hexHigh]
      simp only [if_neg noLow, if_neg paired, hexLow, if_pos isLow, ih]
      rfl

theorem Quoted.skipText_eq {text rest : List Char} (quoted : Quoted text rest) :
    skipText text = .ok rest := by
  induction quoted with
  | close => rw [skipText]
  | plain visible noQuote noBackslash _ ih =>
      rw [skipText, if_neg (Nat.not_lt.mpr visible), ih]
      · exact noQuote
      all_goals
        intros
        contradiction
  | escape escapes _ ih =>
      rw [skipText, escapes, ih]
      · intros
        exact absurd ‹_› (simpleEscape?_ne_u escapes)
      · intros
        exact absurd ‹_› (simpleEscape?_ne_u escapes)
  | code hex _ ih =>
      rw [skipText, hex]
      exact ih

/-! ## Writing -/

/-- The four hexadecimal digits of a seven-bit code. -/
theorem hexQuad?_seven {code : Nat} (small : code < 0x80) :
    Decimal.padLeft 4 (Nat.toDigits 16 code) =
        ['0', '0', (code / 16).digitChar, (code % 16).digitChar] ∧
      hexQuad? '0' '0' (code / 16).digitChar (code % 16).digitChar = some code := by
  revert code
  decide +kernel

theorem spelled_escapedChar (c : Char) {chars text rest : List Char}
    (spelled : Spelled chars text rest) : Spelled (c :: chars) (escapedChar c ++ text) rest := by
  have ofCode : ∀ n, c.toNat = n → c = Char.ofNat n := by
    rintro n rfl
    exact (Char.ofNat_toNat c).symm
  unfold escapedChar
  iterate 5
    split
    next same =>
      rw [same]
      exact .escape rfl spelled
  iterate 2
    split
    next same =>
      rw [ofCode _ same]
      exact .escape rfl spelled
  split
  next control =>
    rcases hexQuad?_seven (Nat.lt_of_lt_of_le control (by decide)) with ⟨digits, value⟩
    have single : ¬ IsSurrogate c.toNat := by
      unfold IsSurrogate
      omega
    have coded := Spelled.code value single spelled
    rw [Char.ofNat_toNat] at coded
    rw [digits]
    exact coded
  next noQuote noBackslash _ _ _ _ _ visible =>
    exact .plain (Nat.not_lt.mp visible) noQuote noBackslash spelled

/-- Every string has a text: its characters one by one, and the closing
quote. -/
theorem spelled_quote (chars rest : List Char) :
    Spelled chars (chars.flatMap escapedChar ++ '"' :: rest) rest := by
  induction chars with
  | nil => exact .close
  | cons c chars ih =>
      rw [List.flatMap_cons, List.append_assoc]
      exact spelled_escapedChar c ih

end ReservationLoad.Json

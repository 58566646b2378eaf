import ReservationLoad.Proofs.Json.Text
import ReservationLoad.Proofs.Text.Digits
import ReservationLoad.Toml.Reader

/-!
# Writing scalars

Every string can be written between double quotes, and every number of 63 bits
with its decimal digits.  What is written is read back, up to the end of the
scalar and no further.
-/

namespace ReservationLoad.Toml

/-! ## Strings -/

/-- One character of a string.  The escapes are those of JSON, where the last of
the control characters may stand for itself. -/
def writtenChar (c : Char) : List Char :=
  if c.toNat = 0x7F then ['\\', 'u', '0', '0', '7', 'f'] else Json.escapedChar c

def writtenText (text : String) : List Char :=
  '"' :: (text.toList.flatMap writtenChar ++ ['"'])

theorem readWith_go {σ : Type} {step : σ → Char → Move σ} {finish : σ → Option (List Char)}
    {state next : σ} {c : Char} {added : List Char} (moves : step state c = .go added next)
    (rest : List Char) :
    readWith step finish state (c :: rest) =
      (readWith step finish next rest).map fun reading => (added ++ reading.1, reading.2) := by
  rw [readWith, moves]

variable {finish : Quoting → Option (List Char)}

theorem readWith_escape {letter c : Char} (escapes : escapeStep letter = .go [c] .plain)
    (rest : List Char) :
    readWith lineStep finish .plain ('\\' :: letter :: rest) =
      (readWith lineStep finish .plain rest).map fun reading => (c :: reading.1, reading.2) := by
  have opens : lineStep .plain '\\' = .go [] .escape := rfl
  have stands : lineStep .escape letter = .go [c] .plain := escapes
  rw [readWith_go opens, readWith_go stands, Option.map_map]
  rfl

/-- The last two digits of a seven-bit code. -/
theorem hexValue?_seven {code : Nat} (small : code < 0x80) :
    Json.hexValue? (code / 16).digitChar = some (code / 16) ∧
      Json.hexValue? (code % 16).digitChar = some (code % 16) := by
  revert code
  decide +kernel

theorem readWith_code {code : Nat} (small : code < 0x80) (rest : List Char) :
    readWith lineStep finish .plain
        ('\\' :: 'u' :: '0' :: '0' :: (code / 16).digitChar :: (code % 16).digitChar :: rest) =
      (readWith lineStep finish .plain rest).map
        fun reading => (Char.ofNat code :: reading.1, reading.2) := by
  obtain ⟨high, low⟩ := hexValue?_seven small
  have opens : lineStep .plain '\\' = .go [] .escape := rfl
  have coded : lineStep .escape 'u' = .go [] (.code 4 0) := rfl
  have first : lineStep (.code 4 0) '0' = .go [] (.code 3 0) := rfl
  have second : lineStep (.code 3 0) '0' = .go [] (.code 2 0) := rfl
  have third : lineStep (.code 2 0) (code / 16).digitChar = .go [] (.code 1 (code / 16)) := by
    simp only [lineStep, codeStep, high]
    rw [if_pos (by decide), Nat.mul_zero, Nat.zero_add]
  have fourth : lineStep (.code 1 (code / 16)) (code % 16).digitChar =
      .go [Char.ofNat code] .plain := by
    have valid : code.isValidChar := .inl (Nat.lt_trans small (by decide))
    simp only [lineStep, codeStep, low, Nat.div_add_mod]
    rw [if_neg (by decide), if_pos valid]
  rw [readWith_go opens, readWith_go coded, readWith_go first, readWith_go second,
    readWith_go third, readWith_go fourth]
  simp only [Option.map_map]
  rfl

theorem readWith_writtenChar (c : Char) (rest : List Char) :
    readWith lineStep finish .plain (writtenChar c ++ rest) =
      (readWith lineStep finish .plain rest).map fun reading => (c :: reading.1, reading.2) := by
  have ofCode : ∀ n, c.toNat = n → c = Char.ofNat n := by
    rintro n rfl
    exact (Char.ofNat_toNat c).symm
  unfold writtenChar
  split
  next delete =>
    rw [ofCode _ delete]
    exact readWith_code (by decide : 0x7F < 0x80) rest
  next noDelete =>
    unfold Json.escapedChar
    iterate 5
      split
      next same =>
        rw [same]
        exact readWith_escape rfl rest
    iterate 2
      split
      next same =>
        rw [ofCode _ same]
        exact readWith_escape rfl rest
    split
    next control =>
      have small : c.toNat < 0x80 := Nat.lt_of_lt_of_le control (by decide)
      rw [(Json.hexQuad?_seven small).1]
      have coded := @readWith_code finish _ small rest
      rw [Char.ofNat_toNat] at coded
      exact coded
    next noQuote noBackslash _ _ _ _ _ visible =>
      have plain : isPlain c = true := by
        simp only [isPlain, Bool.or_eq_true, Bool.and_eq_true, decide_eq_true_eq]
        exact .inr ⟨Nat.not_lt.mp visible, noDelete⟩
      have stands : lineStep .plain c = .go [c] .plain := by
        simp only [lineStep]
        rw [if_neg noQuote, if_neg noBackslash, if_pos plain]
      exact readWith_go stands rest

theorem readLine_written (chars rest : List Char) :
    readLine (chars.flatMap writtenChar ++ '"' :: rest) = some (chars, rest) := by
  induction chars with
  | nil => rfl
  | cons c chars ih =>
      rw [List.flatMap_cons, List.append_assoc, readLine, readWith_writtenChar, ← readLine, ih]
      rfl

/-- No character is written with a quote in front. -/
theorem head_writtenChar (c : Char) : ∃ first more, writtenChar c = first :: more ∧ first ≠ '"' := by
  unfold writtenChar Json.escapedChar
  iterate 9
    split
    next => exact ⟨_, _, rfl, by decide⟩
  next noQuote _ _ _ _ _ _ _ => exact ⟨c, [], rfl, noQuote⟩

theorem readText_written (text : String) (rest : List Char) :
    readText (writtenText text ++ '\n' :: rest) = some (text, '\n' :: rest) := by
  have read := readLine_written text.toList ('\n' :: rest)
  have single : ∀ behind,
      text.toList.flatMap writtenChar ++ '"' :: '\n' :: rest = '"' :: '"' :: behind → False := by
    cases text.toList with
    | nil =>
        rintro behind ⟨⟩
    | cons c chars =>
        obtain ⟨first, more, written, noQuote⟩ := head_writtenChar c
        rw [List.flatMap_cons, written]
        intro behind same
        exact noQuote (List.head_eq_of_cons_eq same)
  rw [writtenText, List.cons_append, List.append_assoc, List.singleton_append, readText, read]
  · simp only [readText.finish, Option.map_some, String.ofList_toList]
  · exact single

theorem readScalar_written (text : String) (rest : List Char) :
    readScalar (writtenText text ++ '\n' :: rest) = some (.text text, '\n' :: rest) := by
  have read := readText_written text rest
  rw [writtenText, List.cons_append] at read ⊢
  rw [readScalar, read]
  rfl

/-! ## Numbers -/

/-- The characters that may stand right behind a value. -/
def closers : List Char := [' ', '\t', '\n', '#', ',', ']', '\x7d']

/-- Does this end a value that stands in front of it? -/
def Closes (rest : List Char) : Prop := ∀ c ∈ rest.head?, c ∈ closers

theorem closes_cons {c : Char} (closer : c ∈ closers) (rest : List Char) : Closes (c :: rest) := by
  rintro _ ⟨⟩
  exact closer

theorem ne_of_isDigit {c other : Char} (digit : c.isDigit = true) (noDigit : other.isDigit = false) :
    c ≠ other := by
  rintro rfl
  rw [digit] at noDigit
  cases noDigit

theorem noDigit_of_closer {c : Char} (closer : c ∈ closers) : c.isDigit = false := by
  have none : closers.any Char.isDigit = false := by decide
  exact Bool.eq_false_iff.mpr (List.any_eq_false.mp none c closer)

theorem moreDigits_of_closes {rest : List Char} (closes : Closes rest) :
    moreDigits Text.digitValue? rest = some ([], rest) := by
  cases rest with
  | nil => rfl
  | cons c rest =>
      have closer := closes c rfl
      have noMark : c ≠ '_' := by
        rintro rfl
        revert closer
        decide
      have noDigit : Text.digitValue? c = none := by
        rw [← Option.not_isSome_iff_eq_none, Text.isSome_digitValue?, noDigit_of_closer closer]
        exact Bool.false_ne_true
      rw [moreDigits, noDigit]
      · intro first behind same
        exact absurd same noMark
      · intro same
        exact absurd same noMark

theorem moreDigits_of_isDigit {digits rest : List Char} (all : ∀ c ∈ digits, c.isDigit = true)
    (closes : Closes rest) :
    moreDigits Text.digitValue? (digits ++ rest) =
      some (digits.map fun c => c.toNat - '0'.toNat, rest) := by
  induction digits with
  | nil => exact moreDigits_of_closes closes
  | cons c digits ih =>
      obtain ⟨digit, others⟩ := List.forall_mem_cons.mp all
      have noMark : c ≠ '_' := ne_of_isDigit digit rfl
      rw [List.cons_append, moreDigits, Text.digitValue?_of_isDigit digit]
      · simp only [ih others, Option.map_some, List.map_cons]
      · intro first behind same
        exact absurd same noMark
      · intro same
        exact absurd same noMark

theorem valueOf_digits (digits : List Char) :
    valueOf 10 (digits.map fun c => c.toNat - '0'.toNat) = Nat.ofDigitChars 10 digits 0 := by
  rw [valueOf, List.foldl_map]
  rfl

theorem isDigit_eq (c : Char) : isDigit c = c.isDigit := Text.isSome_digitValue? c

/-- A moment shows by the mark behind its first digits. -/
theorem exists_mark_of_startsMoment {input : List Char} (starts : startsMoment input = true) :
    ∃ front mark behind, input = front ++ mark :: behind ∧ (∀ c ∈ front, c.isDigit = true) ∧
      (mark = ':' ∨ mark = '-') := by
  unfold startsMoment at starts
  split at starts
  next a b behind =>
    simp only [isDigit_eq, Bool.and_eq_true] at starts
    refine ⟨[a, b], ':', behind, rfl, ?_, .inl rfl⟩
    simpa using starts
  next a b c d behind _ =>
    simp only [isDigit_eq, Bool.and_eq_true] at starts
    refine ⟨[a, b, c, d], '-', behind, rfl, ?_, .inr rfl⟩
    simpa [and_assoc] using starts
  next => cases starts

/-- Behind digits is what their number may end at. -/
theorem dropWhile_isDigit {digits rest : List Char} (all : ∀ c ∈ digits, c.isDigit = true)
    (ends : ∀ c ∈ rest.head?, c.isDigit = false) :
    (digits ++ rest).dropWhile Char.isDigit = rest := by
  rw [List.dropWhile_append_of_pos all]
  cases rest with
  | nil => rfl
  | cons c rest =>
      rw [List.dropWhile_cons_of_neg]
      rw [ends c rfl]
      exact Bool.false_ne_true

/-- Behind the digits of a number the value ends, so they are no moment. -/
theorem startsMoment_of_isDigit {digits rest : List Char} (all : ∀ c ∈ digits, c.isDigit = true)
    (closes : Closes rest) : startsMoment (digits ++ rest) = false := by
  apply Bool.eq_false_iff.mpr
  intro starts
  obtain ⟨front, mark, behind, same, allFront, isMark⟩ := exists_mark_of_startsMoment starts
  have noDigit : ∀ c ∈ (mark :: behind).head?, c.isDigit = false := by
    rintro _ ⟨⟩
    rcases isMark with rfl | rfl <;> rfl
  have dropped := congrArg (List.dropWhile Char.isDigit) same
  rw [dropWhile_isDigit all fun c first => noDigit_of_closer (closes c first),
    dropWhile_isDigit allFront noDigit] at dropped
  have closer := closes mark (dropped ▸ rfl)
  revert closer
  rcases isMark with rfl | rfl <;> decide

theorem ofNat_append_ne {n : Nat} {c : Char} (noDigit : c.isDigit = false)
    (rest tail : List Char) : Decimal.ofNat n ++ rest ≠ c :: tail := by
  obtain ⟨first, more, shape⟩ := List.exists_cons_of_ne_nil (Decimal.ofNat_ne_nil n)
  rw [shape, List.cons_append]
  rintro ⟨⟩
  have digit := Decimal.isDigit_of_mem_ofNat (n := n) (shape ▸ List.mem_cons_self)
  exact ne_of_isDigit digit noDigit rfl

theorem readSign_ofNat (n : Nat) (rest : List Char) :
    readSign (Decimal.ofNat n ++ rest) = (false, Decimal.ofNat n ++ rest) := by
  unfold readSign
  split
  next same => exact absurd same (ofNat_append_ne rfl _ _)
  next same => exact absurd same (ofNat_append_ne rfl _ _)
  next => rfl

section

variable {rest : List Char} (closes : Closes rest)
include closes

theorem readWhole_ofNat (n : Nat) :
    ∃ digits, readWhole (Decimal.ofNat n ++ rest) = some (digits, rest) ∧
      valueOf 10 digits = n := by
  have all : ∀ c ∈ Decimal.ofNat n, c.isDigit = true :=
    fun c member => Decimal.isDigit_of_mem_ofNat member
  obtain ⟨first, more, digits⟩ := List.exists_cons_of_ne_nil (Decimal.ofNat_ne_nil n)
  by_cases zero : first = '0'
  · rw [zero] at digits
    rw [digits, Decimal.alone_of_ofNat digits, Decimal.eq_zero_of_ofNat digits]
    exact ⟨[0], rfl, rfl⟩
  · have value := valueOf_digits (Decimal.ofNat n)
    rw [Decimal.value_ofNat, digits] at value
    refine ⟨_, ?_, value⟩
    obtain ⟨digit, others⟩ := List.forall_mem_cons.mp (digits ▸ all)
    rw [digits, List.cons_append, readWhole, readDigits, Text.digitValue?_of_isDigit digit]
    · simp only [moreDigits_of_isDigit others closes, Option.map_some, List.map_cons]
    · rintro behind ⟨⟩
      exact zero rfl

theorem readDecimal_ofNat (n : Nat) :
    readDecimal (Decimal.ofNat n ++ rest) =
      (wholeOf false n).map fun scalar => (scalar, rest) := by
  obtain ⟨digits, whole, value⟩ := readWhole_ofNat closes n
  rw [readDecimal, readSign_ofNat]
  simp only [whole, Option.bind_eq_bind, Option.bind_some, value]
  split
  next => exact absurd (closes '.' rfl) (by decide)
  next c behind _ =>
    have noScale : ¬(c = 'e' ∨ c = 'E') := by
      have closer := closes c rfl
      rintro (rfl | rfl) <;> revert closer <;> decide
    rw [if_neg noScale]
    cases wholeOf false n <;> rfl
  next => cases wholeOf false n <;> rfl

/-- Behind a zero in front the value ends. -/
theorem ofNat_append_ne_zero {n : Nat} {c : Char} (other : c ∉ closers) (tail : List Char) :
    Decimal.ofNat n ++ rest ≠ '0' :: c :: tail := by
  obtain ⟨first, more, shape⟩ := List.exists_cons_of_ne_nil (Decimal.ofNat_ne_nil n)
  rw [shape, List.cons_append]
  rintro same
  rw [List.head_eq_of_cons_eq same] at shape
  rw [Decimal.alone_of_ofNat shape] at same
  have behind := List.tail_eq_of_cons_eq same
  rw [List.nil_append] at behind
  exact other (closes c (behind ▸ rfl))

omit closes in
theorem readSpecial_ofNat (n : Nat) (rest : List Char) :
    readSpecial (Decimal.ofNat n ++ rest) = none := by
  rw [readSpecial, readSign_ofNat]
  simp only
  split
  next same => exact absurd same (ofNat_append_ne rfl _ _)
  next same => exact absurd same (ofNat_append_ne rfl _ _)
  next => rfl

/-- The digits of a number are read as this number if it is one of 63 bits, and
otherwise not at all. -/
theorem readScalar_ofNat (n : Nat) :
    readScalar (Decimal.ofNat n ++ rest) =
      (wholeOf false n).map fun scalar => (scalar, rest) := by
  have all : ∀ c ∈ Decimal.ofNat n, c.isDigit = true :=
    fun c member => Decimal.isDigit_of_mem_ofNat member
  unfold readScalar
  split
  next same => exact absurd same (ofNat_append_ne rfl _ _)
  next same => exact absurd same (ofNat_append_ne rfl _ _)
  next same => exact absurd same (ofNat_append_ne rfl _ _)
  next same => exact absurd same (ofNat_append_ne rfl _ _)
  next same => exact absurd same (ofNat_append_ne_zero closes (by decide) _)
  next same => exact absurd same (ofNat_append_ne_zero closes (by decide) _)
  next same => exact absurd same (ofNat_append_ne_zero closes (by decide) _)
  next =>
    rw [startsMoment_of_isDigit all closes, if_neg Bool.false_ne_true, readSpecial_ofNat]
    exact readDecimal_ofNat closes n

end

theorem wholeOf_of_lt {n : Nat} (small : n < 0x8000000000000000) :
    wholeOf false n = some (.whole n) := by
  rw [wholeOf, if_neg Bool.false_ne_true, if_pos small]

theorem wholeOf_of_le {n : Nat} (large : 0x8000000000000000 ≤ n) : wholeOf false n = none := by
  rw [wholeOf, if_neg Bool.false_ne_true, if_neg (Nat.not_lt.mpr large)]

end ReservationLoad.Toml

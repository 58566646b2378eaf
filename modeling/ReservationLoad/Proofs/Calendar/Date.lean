import ReservationLoad.Calendar.Date
import ReservationLoad.Proofs.Text.Digits
import ReservationLoad.Proofs.Wire.Records

/-!
# Dates read back

Every date of the calendar is read back from its own text, whatever the sign of
its year and however many digits the year has.
-/

namespace ReservationLoad.Calendar.Date

theorem readDigits_append {digits : List Char} (all : ∀ c ∈ digits, c.isDigit = true)
    {width value : Nat} (enough : digits.length ≤ width)
    (small : Nat.ofDigitChars 10 digits value < 0x8000000000000000) {rest : List Char}
    (stops : digits.length = width ∨ ∀ c ∈ rest.head?, c.isDigit = false) :
    readDigits width value (digits ++ rest) = .ok (Nat.ofDigitChars 10 digits value, rest) := by
  induction digits generalizing width value with
  | nil =>
      cases width with
      | zero => rfl
      | succ width =>
          rcases stops with full | stops
          · cases full
          · cases rest with
            | nil => rfl
            | cons c rest =>
                rw [List.nil_append, readDigits, Text.digitValue?_eq_none (stops c rfl)]
                rfl
  | cons c digits ih =>
      cases width with
      | zero => cases enough
      | succ width =>
          rw [Nat.ofDigitChars_cons] at small ⊢
          have next := Nat.lt_of_le_of_lt (Decimal.le_ofDigitChars digits _) small
          rw [List.cons_append, readDigits, Text.digitValue?_of_isDigit (all c List.mem_cons_self)]
          simp only [if_pos next]
          refine ih (fun d member => all d (List.mem_cons_of_mem c member))
            (Nat.le_of_succ_le_succ enough) small (stops.imp_left Nat.succ.inj)

section Padded

variable {n least : Nat}

/-- The digits of a number with zeros in front. -/
theorem padLeft_eq_cons (least n : Nat) :
    ∃ first more, Decimal.padLeft least (Decimal.ofNat n) = first :: more ∧
      first.isDigit = true := by
  have all : ∀ c ∈ Decimal.padLeft least (Decimal.ofNat n), c.isDigit = true :=
    fun c member => Decimal.isDigit_of_mem_padLeft (fun d => Decimal.isDigit_of_mem_ofNat) member
  have nonempty : Decimal.padLeft least (Decimal.ofNat n) ≠ [] := by
    rw [Decimal.padLeft, ne_eq, List.append_eq_nil_iff]
    exact fun none => Decimal.ofNat_ne_nil n none.2
  rcases List.exists_cons_of_ne_nil nonempty with ⟨first, more, digits⟩
  rw [digits] at all
  exact ⟨first, more, digits, all first List.mem_cons_self⟩

theorem readNumber_padLeft (small : n < 0x8000000000000000) {width : Nat}
    (enough : (Decimal.padLeft least (Decimal.ofNat n)).length ≤ width) {rest : List Char}
    (stops : (Decimal.padLeft least (Decimal.ofNat n)).length = width ∨
      ∀ c ∈ rest.head?, c.isDigit = false) :
    readNumber width (Decimal.padLeft least (Decimal.ofNat n) ++ rest) = .ok (n, rest) := by
  have value : Nat.ofDigitChars 10 (Decimal.padLeft least (Decimal.ofNat n)) 0 = n := by
    rw [Decimal.value_padLeft, Decimal.value_ofNat]
  have read := readDigits_append
    (fun c member => Decimal.isDigit_of_mem_padLeft (fun d => Decimal.isDigit_of_mem_ofNat) member)
    enough (value ▸ small) stops
  rcases padLeft_eq_cons least n with ⟨first, more, digits, digit⟩
  rw [value, digits, List.cons_append] at read
  rw [digits, List.cons_append, readNumber, Text.isSome_digitValue?, if_pos digit]
  exact read

theorem length_padLeft_ofNat (some : 0 < least) (small : n < 10 ^ least) :
    (Decimal.padLeft least (Decimal.ofNat n)).length = least := by
  have short := Decimal.length_ofNat_le some small
  rw [Decimal.length_padLeft]
  omega

end Padded

/-! ## Months and days -/

theorem readPart_twoDigits {n last : Nat} (some : 1 ≤ n) (small : n ≤ last) (two : last < 100)
    (rest : List Char) : readPart last (twoDigits n ++ rest) = .ok (n, rest) := by
  rcases padLeft_eq_cons 2 n with ⟨first, more, digits, digit⟩
  have visible : (twoDigits n ++ rest).dropWhile Text.isBlank = twoDigits n ++ rest := by
    rw [twoDigits, digits, List.cons_append,
      List.dropWhile_cons_of_neg (by rw [Text.isBlank_of_isDigit digit]; decide)]
  have length : (twoDigits n).length = 2 := length_padLeft_ofNat (by decide) (by omega)
  have read : readNumber 2 (twoDigits n ++ rest) = .ok (n, rest) :=
    readNumber_padLeft (by omega) (Nat.le_of_eq length) (.inl length)
  rw [readPart, visible, read]
  simp only [bind, Except.bind, if_pos (And.intro some small)]
  rfl

theorem readHyphen_cons (rest : List Char) : readHyphen ('-' :: rest) = .ok rest := rfl

/-! ## Years -/

/-- Reads the number of a year with its sign. -/
def readSigned (text : List Char) : Except Fault (Int × List Char) :=
  match text with
  | '-' :: digits => do
    let (n, rest) ← readNumber digits.length digits
    pure (-(n : Int), rest)
  | '+' :: digits => do
    let (n, rest) ← readNumber digits.length digits
    pure ((n : Int), rest)
  | digits => do
    let (n, rest) ← readNumber 4 digits
    pure ((n : Int), rest)

/-- Years of 32 bits. -/
def checkYear (found : Int × List Char) : Except Fault (Int × List Char) :=
  if -0x80000000 ≤ found.1 ∧ found.1 < 0x80000000 then .ok found else .error .outOfRange

/-- The sign is an arbitrary function here: no bound is to be evaluated. -/
theorem checkYear_of_number (reading : Except Fault (Nat × List Char)) (signed : Nat → Int) :
    (do
      let (n, rest) ← reading
      let (year, rest) ← pure (signed n, rest)
      if -0x80000000 ≤ year ∧ year < 0x80000000 then pure (year, rest) else throw .outOfRange) =
      ((do
        let (n, rest) ← reading
        pure (signed n, rest)) >>= checkYear : Except Fault (Int × List Char)) := by
  cases reading <;> rfl

theorem readYear_eq (text : List Char) :
    readYear text = readSigned (text.dropWhile Text.isBlank) >>= checkYear := by
  unfold readYear readSigned
  generalize text.dropWhile Text.isBlank = visible
  rcases visible with - | ⟨c, digits⟩
  · exact checkYear_of_number (readNumber 4 []) Int.ofNat
  by_cases minus : c = '-'
  · rw [minus]
    exact checkYear_of_number (readNumber digits.length digits) fun n => -(n : Int)
  by_cases plus : c = '+'
  · rw [plus]
    exact checkYear_of_number (readNumber digits.length digits) Int.ofNat
  · have noMinus : ∀ more, c :: digits ≠ '-' :: more := by
      intro more same
      exact minus (List.head_eq_of_cons_eq same)
    have noPlus : ∀ more, c :: digits ≠ '+' :: more := by
      intro more same
      exact plus (List.head_eq_of_cons_eq same)
    simp only
    exact checkYear_of_number (readNumber 4 (c :: digits)) Int.ofNat

theorem readSigned_of_isDigit {first : Char} (digit : first.isDigit = true) (more : List Char) :
    readSigned (first :: more) =
      readNumber 4 (first :: more) >>= fun found => pure ((found.1 : Int), found.2) := by
  unfold readSigned
  split
  next same =>
    cases same
    cases digit
  next same =>
    cases same
    cases digit
  next => rfl

/-- Behind a sign as many digits are read as there are, without one four. -/
theorem readSigned_yearText (year : Int) (small : year.natAbs < 0x8000000000000000)
    (rest : List Char) :
    readSigned (yearText year ++ '-' :: rest) = .ok (year, '-' :: rest) := by
  have stops : ∀ c ∈ ('-' :: rest).head?, c.isDigit = false := by
    rintro _ ⟨⟩
    rfl
  have signed :
      readNumber (Decimal.padLeft 4 (Decimal.ofNat year.natAbs) ++ '-' :: rest).length
          (Decimal.padLeft 4 (Decimal.ofNat year.natAbs) ++ '-' :: rest) =
        .ok (year.natAbs, '-' :: rest) :=
    readNumber_padLeft small (by simp) (.inr stops)
  rw [yearText]
  split
  next negative =>
    have value : -(year.natAbs : Int) = year := by omega
    simp only [List.cons_append, readSigned, signed, Wire.ok_bind, value]
    rfl
  split
  next large =>
    have value : (year.natAbs : Int) = year := by omega
    simp only [List.cons_append, readSigned, signed, Wire.ok_bind, value]
    rfl
  next inside =>
    have value : (year.natAbs : Int) = year := by omega
    have length : (Decimal.padLeft 4 (Decimal.ofNat year.natAbs)).length = 4 :=
      length_padLeft_ofNat (by decide) (by omega)
    have read : readNumber 4 (Decimal.padLeft 4 (Decimal.ofNat year.natAbs) ++ '-' :: rest) =
        .ok (year.natAbs, '-' :: rest) :=
      readNumber_padLeft small (Nat.le_of_eq length) (.inl length)
    rcases padLeft_eq_cons 4 year.natAbs with ⟨first, more, digits, digit⟩
    rw [digits, List.cons_append] at read ⊢
    rw [readSigned_of_isDigit digit, read, Wire.ok_bind, value]
    rfl

theorem dropWhile_yearText (year : Int) (rest : List Char) :
    (yearText year ++ rest).dropWhile Text.isBlank = yearText year ++ rest := by
  rcases padLeft_eq_cons 4 year.natAbs with ⟨first, more, digits, digit⟩
  rw [yearText]
  split
  · exact List.dropWhile_cons_of_neg (by decide)
  split
  · exact List.dropWhile_cons_of_neg (by decide)
  · rw [digits]
    exact List.dropWhile_cons_of_neg (by rw [Text.isBlank_of_isDigit digit]; decide)

theorem readYear_yearText {year : Int} (low : -262143 ≤ year) (high : year ≤ 262142)
    (rest : List Char) : readYear (yearText year ++ '-' :: rest) = .ok (year, '-' :: rest) := by
  have inside : -0x80000000 ≤ year ∧ year < 0x80000000 := by omega
  rw [readYear_eq, dropWhile_yearText, readSigned_yearText year (by omega) rest, Wire.ok_bind,
    checkYear, if_pos inside]

/-! ## Dates -/

theorem daysInMonth_le (year : Int) (month : Nat) : daysInMonth year month ≤ 31 := by
  unfold daysInMonth
  split
  any_goals decide
  split <;> decide

theorem month_of_daysInMonth_pos {year : Int} {month : Nat} (some : 0 < daysInMonth year month) :
    1 ≤ month ∧ month ≤ 12 := by
  unfold daysInMonth at some
  split at some
  any_goals decide
  cases some

/-- A date is read back from its text. -/
theorem read_toChars (date : Date) : read date.toChars = .ok date := by
  rcases date with ⟨year, month, day, isDay⟩
  have bounds := isDay
  simp only [Calendar.isDay, Bool.and_eq_true, decide_eq_true_eq] at bounds
  obtain ⟨⟨⟨low, high⟩, some⟩, last⟩ := bounds
  obtain ⟨monthSome, monthLast⟩ := month_of_daysInMonth_pos (Nat.lt_of_lt_of_le some last)
  have dayLast := Nat.le_trans last (daysInMonth_le year month)
  have text : toChars ⟨year, month, day, isDay⟩ =
      yearText year ++ '-' :: (twoDigits month ++ '-' :: (twoDigits day ++ [])) := by
    simp only [toChars, List.cons_append, List.append_assoc, List.append_nil]
  rw [text, read, readYear_yearText low high]
  simp only [bind, Except.bind, readHyphen_cons, readPart_twoDigits monthSome monthLast (by decide),
    readPart_twoDigits some dayLast (by decide), make?, dif_pos isDay]
  rfl

end ReservationLoad.Calendar.Date

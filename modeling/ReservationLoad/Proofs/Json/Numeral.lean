import ReservationLoad.Proofs.Json.Grammar
import ReservationLoad.Proofs.Text.Digits

/-!
# Reading numerals

A number is read from its own characters alone: whatever lies behind it is left
untouched and has no influence on what is read, as long as the number cannot go
on there.  So every numeral has a reading of its own, `numeral`, and the reader
of a text finds exactly that.  Which double a fraction stands for is not
settled here.
-/

namespace ReservationLoad.Json

@[simp]
theorem isDigit_eq (c : Char) : isDigit c = c.isDigit := Text.isSome_digitValue? c

/-- No digit goes on at the front of the text. -/
def EndsDigits (rest : List Char) : Prop := rest.head?.any isDigit = false

theorem EndsNumeral.endsDigits {rest : List Char} (ends : EndsNumeral rest) : EndsDigits rest := by
  cases rest with
  | nil => rfl
  | cons c rest =>
      have stops := ends c rfl
      simp only [continuesNumeral, Bool.or_eq_false_iff] at stops
      exact stops.1.1.1

theorem endsDigits_cons {c : Char} {rest : List Char} :
    EndsDigits (c :: rest) ↔ c.isDigit = false := by
  simp only [EndsDigits, List.head?_cons, Option.any_some, isDigit_eq]

/-! ## Runs of digits -/

theorem dropWhile_isDigit_append {digits : List Char} (all : ∀ c ∈ digits, isDigit c = true)
    {rest : List Char} (ends : EndsDigits rest) :
    (digits ++ rest).dropWhile isDigit = rest := by
  rw [List.dropWhile_append_of_pos all]
  cases rest with
  | nil => rfl
  | cons c rest => exact List.dropWhile_cons_of_neg (Bool.eq_false_iff.mp ends)

theorem takeDigits_of_endsDigits (value : Nat) {rest : List Char} (ends : EndsDigits rest) :
    takeDigits value rest = (value, rest) := by
  cases rest with
  | nil => rfl
  | cons c rest =>
      rw [takeDigits, Text.digitValue?_eq_none (endsDigits_cons.mp ends)]

/-- The digits that are gathered, and those left over, are the same whatever
lies behind the digits. -/
theorem takeDigits_append {digits : List Char} (all : ∀ c ∈ digits, isDigit c = true)
    (value : Nat) :
    ∃ gathered left, (∀ c ∈ left, isDigit c = true) ∧ left.length ≤ digits.length ∧
      ∀ rest, EndsDigits rest → takeDigits value (digits ++ rest) = (gathered, left ++ rest) := by
  induction digits generalizing value with
  | nil =>
      refine ⟨value, [], by simp, Nat.le_refl _, fun rest ends => ?_⟩
      exact takeDigits_of_endsDigits value ends
  | cons c digits ih =>
      have digit : c.isDigit = true := by simpa using all c List.mem_cons_self
      by_cases fits : 10 * value + (c.toNat - '0'.toNat) < UInt64.size
      · rcases ih (fun d member => all d (List.mem_cons_of_mem c member))
            (10 * value + (c.toNat - '0'.toNat)) with
          ⟨gathered, left, leftDigits, shorter, taken⟩
        refine ⟨gathered, left, leftDigits, Nat.le_succ_of_le shorter, fun rest ends => ?_⟩
        rw [List.cons_append, takeDigits, Text.digitValue?_of_isDigit digit]
        simp only [if_pos fits]
        exact taken rest ends
      · refine ⟨value, c :: digits, all, Nat.le_refl _, fun rest _ => ?_⟩
        rw [List.cons_append, takeDigits, Text.digitValue?_of_isDigit digit]
        simp only [if_neg fits]

/-- Digits whose number fits in 64 bits are gathered as a whole. -/
theorem takeDigits_of_lt {digits : List Char} (all : ∀ c ∈ digits, c.isDigit = true) {value : Nat}
    (fits : Nat.ofDigitChars 10 digits value < UInt64.size) {rest : List Char}
    (ends : EndsDigits rest) :
    takeDigits value (digits ++ rest) = (Nat.ofDigitChars 10 digits value, rest) := by
  induction digits generalizing value with
  | nil => exact takeDigits_of_endsDigits value ends
  | cons c digits ih =>
      rw [Nat.ofDigitChars_cons] at fits ⊢
      have small := Nat.lt_of_le_of_lt (Decimal.le_ofDigitChars digits _) fits
      rw [List.cons_append, takeDigits, Text.digitValue?_of_isDigit (all c List.mem_cons_self)]
      simp only [if_pos small]
      exact ih (fun d member => all d (List.mem_cons_of_mem c member)) fits

theorem takeExponent_append {digits : List Char} (all : ∀ c ∈ digits, isDigit c = true)
    (value : Nat) :
    ∃ gathered, ∀ rest, EndsDigits rest →
      takeExponent value (digits ++ rest) = (gathered, rest) := by
  induction digits generalizing value with
  | nil =>
      refine ⟨some value, fun rest ends => ?_⟩
      cases rest with
      | nil => rfl
      | cons c rest =>
          rw [List.nil_append, takeExponent, Text.digitValue?_eq_none (endsDigits_cons.mp ends)]
  | cons c digits ih =>
      have digit : c.isDigit = true := by simpa using all c List.mem_cons_self
      have others : ∀ d ∈ digits, isDigit d = true :=
        fun d member => all d (List.mem_cons_of_mem c member)
      by_cases fits : 10 * value + (c.toNat - '0'.toNat) < exponentLimit
      · rcases ih others (10 * value + (c.toNat - '0'.toNat)) with ⟨gathered, taken⟩
        refine ⟨gathered, fun rest ends => ?_⟩
        rw [List.cons_append, takeExponent, Text.digitValue?_of_isDigit digit]
        simp only [if_pos fits]
        exact taken rest ends
      · refine ⟨none, fun rest ends => ?_⟩
        rw [List.cons_append, takeExponent, Text.digitValue?_of_isDigit digit]
        simp only [if_neg fits]
        rw [dropWhile_isDigit_append others ends]

/-! ## The parts of a number -/

/-- What `read` finds at the front of a text that begins with `text` does not
depend on what lies behind. -/
def Settled (read : List Char → Except Fault (Number × List Char)) (text : List Char) : Prop :=
  ∃ outcome : Except Fault Number,
    ∀ rest, EndsNumeral rest → read (text ++ rest) = outcome.map (·, rest)

theorem settled_fractionOf (positive : Bool) (significand : Nat) (exponent : Int) :
    Settled (fractionOf positive significand exponent) [] := by
  unfold Settled fractionOf
  cases scale? significand exponent with
  | none => exact ⟨.error .malformed, fun rest _ => rfl⟩
  | some value => exact ⟨.ok _, fun rest _ => rfl⟩

/-- Reads the digits of an exponent whose sign has been read. -/
def readScale (positive : Bool) (significand : Nat) (exponent : Int) (negative : Bool)
    (digits : List Char) : Except Fault (Number × List Char) :=
  match digits with
  | [] => .error .ended
  | c :: _ =>
    if !isDigit c then .error .malformed
    else
      match takeExponent 0 digits with
      | (some written, rest) =>
        let total := if negative then exponent - written else exponent + written
        fractionOf positive significand (clampExponent total) rest
      | (none, rest) =>
        if significand ≠ 0 ∧ !negative then .error .malformed
        else .ok (.fraction (if positive then Binary64.zero else Binary64.negativeZero), rest)

theorem readExponent_unsigned (positive : Bool) (significand : Nat) (exponent : Int)
    {digits : List Char} (noPlus : digits.head? ≠ some '+') (noMinus : digits.head? ≠ some '-') :
    readExponent positive significand exponent digits =
      readScale positive significand exponent false digits := by
  unfold readExponent
  split
  next seen =>
    split at seen
    next => exact absurd rfl noPlus
    next => exact absurd rfl noMinus
    next =>
      cases seen
      rfl

theorem settled_readScale (positive : Bool) (significand : Nat) (exponent : Int)
    (negative : Bool) {digits : List Char} (isDigits : IsDigits digits) :
    Settled (readScale positive significand exponent negative) digits := by
  rcases takeExponent_append isDigits.2 0 with ⟨gathered, taken⟩
  cases digits with
  | nil => exact absurd rfl isDigits.1
  | cons c digits =>
      have digit : isDigit c = true := isDigits.2 c List.mem_cons_self
      cases gathered with
      | none =>
          by_cases large : significand ≠ 0 ∧ !negative
          · refine ⟨.error .malformed, fun rest ends => ?_⟩
            rw [List.cons_append, readScale, ← List.cons_append, taken rest ends.endsDigits]
            simp only [digit, if_pos large]
            rfl
          · refine ⟨.ok (.fraction (if positive then Binary64.zero else Binary64.negativeZero)),
              fun rest ends => ?_⟩
            rw [List.cons_append, readScale, ← List.cons_append, taken rest ends.endsDigits]
            simp only [digit, if_neg large]
            rfl
      | some written =>
          rcases settled_fractionOf positive significand
              (clampExponent (if negative then exponent - written else exponent + written)) with
            ⟨outcome, settled⟩
          refine ⟨outcome, fun rest ends => ?_⟩
          rw [List.cons_append, readScale, ← List.cons_append, taken rest ends.endsDigits]
          simp only [digit]
          exact settled rest ends

/-- An exponent behind its mark. -/
theorem settled_readExponent (positive : Bool) (significand : Nat) (exponent : Int)
    {digits : List Char} (isDigits : IsDigits digits) :
    Settled (readExponent positive significand exponent) digits := by
  rcases settled_readScale positive significand exponent false isDigits with ⟨outcome, settled⟩
  refine ⟨outcome, fun rest ends => ?_⟩
  rw [← settled rest ends]
  cases digits with
  | nil => exact absurd rfl isDigits.1
  | cons c digits =>
      have digit : isDigit c = true := isDigits.2 c List.mem_cons_self
      apply readExponent_unsigned
      · rintro ⟨⟩
        exact absurd digit (by decide)
      · rintro ⟨⟩
        exact absurd digit (by decide)

theorem settled_signedExponent (positive : Bool) (significand : Nat) (exponent : Int)
    {sign : Char} (isSign : sign = '+' ∨ sign = '-') {digits : List Char}
    (isDigits : IsDigits digits) :
    Settled (readExponent positive significand exponent) (sign :: digits) := by
  rcases isSign with rfl | rfl
  · exact settled_readScale positive significand exponent false isDigits
  · exact settled_readScale positive significand exponent true isDigits

theorem EndsNumeral.readTail_eq {rest : List Char} (ends : EndsNumeral rest) (positive : Bool)
    (significand : Nat) (exponent : Int) :
    readTail positive significand exponent rest =
      fractionOf positive significand exponent rest := by
  unfold readTail
  split
  next more => exact absurd (ends 'e' rfl) (by decide)
  next more => exact absurd (ends 'E' rfl) (by decide)
  next => rfl

/-- The scale of a number, its mark included. -/
theorem settled_readTail (positive : Bool) (significand : Nat) (exponent : Int)
    {scale : List Char} (isScale : IsScale scale) :
    Settled (readTail positive significand exponent) scale := by
  cases isScale with
  | none =>
      rcases settled_fractionOf positive significand exponent with ⟨outcome, settled⟩
      exact ⟨outcome, fun rest ends => (ends.readTail_eq ..).trans (settled rest ends)⟩
  | unsigned isMark digits =>
      rcases settled_readExponent positive significand exponent digits with ⟨outcome, settled⟩
      rcases isMark with rfl | rfl <;> exact ⟨outcome, settled⟩
  | signed isMark isSign digits =>
      rcases settled_signedExponent positive significand exponent isSign digits with
        ⟨outcome, settled⟩
      rcases isMark with rfl | rfl <;> exact ⟨outcome, settled⟩

/-- Neither a point nor a scale goes on with a digit. -/
theorem IsScale.endsDigits {scale rest : List Char} (isScale : IsScale scale)
    (ends : EndsNumeral rest) : EndsDigits (scale ++ rest) := by
  cases isScale with
  | none => exact ends.endsDigits
  | unsigned isMark => rcases isMark with rfl | rfl <;> rfl
  | signed isMark => rcases isMark with rfl | rfl <;> rfl

/-- The digits behind a point and the scale. -/
theorem settled_readFraction (positive : Bool) (significand : Nat) (exponent : Int)
    {digits scale : List Char} (isDigits : IsDigits digits) (isScale : IsScale scale) :
    Settled (readFraction positive significand exponent) (digits ++ scale) := by
  rcases takeDigits_append isDigits.2 significand with
    ⟨gathered, left, leftDigits, shorter, taken⟩
  rcases settled_readTail positive gathered
      (exponent - ((digits.length - left.length : Nat) : Int)) isScale with ⟨outcome, settled⟩
  refine ⟨outcome, fun rest ends => ?_⟩
  have stops := isScale.endsDigits ends
  rw [← settled rest ends, List.append_assoc, readFraction, taken _ stops]
  simp only [dropWhile_isDigit_append leftDigits stops, List.length_append]
  have places : digits.length + (scale.length + rest.length) -
      (left.length + (scale.length + rest.length)) = digits.length - left.length := by omega
  have digitsThere : 0 < digits.length := List.length_pos_iff.mpr isDigits.1
  rw [places, if_neg (by omega)]

/-- Reads what stands behind the digits in front of the point. -/
def readBehind (positive : Bool) (significand : Nat) (exponent : Int) :
    List Char → Except Fault (Number × List Char)
  | '.' :: rest => readFraction positive significand exponent rest
  | 'e' :: rest => readExponent positive significand exponent rest
  | 'E' :: rest => readExponent positive significand exponent rest
  | beyond =>
    if exponent = 0 then .ok (wholeNumber positive significand, beyond)
    else fractionOf positive significand exponent beyond

/-- Behind a number there is only the number itself left to settle. -/
theorem EndsNumeral.readBehind_eq {rest : List Char} (ends : EndsNumeral rest) (positive : Bool)
    (significand : Nat) (exponent : Int) :
    readBehind positive significand exponent rest =
      if exponent = 0 then .ok (wholeNumber positive significand, rest)
      else fractionOf positive significand exponent rest := by
  unfold readBehind
  split
  next more => exact absurd (ends '.' rfl) (by decide)
  next more => exact absurd (ends 'e' rfl) (by decide)
  next more => exact absurd (ends 'E' rfl) (by decide)
  next => rfl

theorem settled_readBehind (positive : Bool) (significand : Nat) (exponent : Int)
    {places scale : List Char} (isPlaces : IsPlaces places) (isScale : IsScale scale) :
    Settled (readBehind positive significand exponent) (places ++ scale) := by
  cases isPlaces with
  | point digits =>
      rcases settled_readFraction positive significand exponent digits isScale with
        ⟨outcome, settled⟩
      exact ⟨outcome, settled⟩
  | none =>
      cases isScale with
      | none =>
          by_cases whole : exponent = 0
          · refine ⟨.ok (wholeNumber positive significand), fun rest ends => ?_⟩
            exact (ends.readBehind_eq ..).trans (if_pos whole)
          · rcases settled_fractionOf positive significand exponent with ⟨outcome, settled⟩
            refine ⟨outcome, fun rest ends => ?_⟩
            exact ((ends.readBehind_eq ..).trans (if_neg whole)).trans (settled rest ends)
      | unsigned isMark digits =>
          rcases settled_readExponent positive significand exponent digits with
            ⟨outcome, settled⟩
          rcases isMark with rfl | rfl <;> exact ⟨outcome, settled⟩
      | signed isMark isSign digits =>
          rcases settled_signedExponent positive significand exponent isSign digits with
            ⟨outcome, settled⟩
          rcases isMark with rfl | rfl <;> exact ⟨outcome, settled⟩

/-! ## Whole numbers and fractions -/

theorem eq_zero_of_digit {c : Char} (digit : c.isDigit = true) (zero : c.toNat - '0'.toNat = 0) :
    c = '0' := by
  have low : '0'.toNat ≤ c.toNat := by
    simp only [Char.isDigit, Bool.and_eq_true, decide_eq_true_eq] at digit
    exact digit.1
  apply Char.toNat_inj.mp
  omega

/-- A number begins with its digits; a zero in front has to stand alone. -/
theorem readDigits_cons (positive : Bool) {first : Char} (digit : first.isDigit = true)
    {rest left tail : List Char} {significand : Nat} (alone : first = '0' → EndsDigits rest)
    (taken : takeDigits (first.toNat - '0'.toNat) rest = (significand, left ++ tail))
    (leftDigits : ∀ c ∈ left, isDigit c = true) (stops : EndsDigits tail) :
    readDigits positive (first :: rest) = readBehind positive significand left.length tail := by
  have noSecond : ¬ (first.toNat - '0'.toNat = 0 ∧ rest.head?.any isDigit = true) := by
    rintro ⟨zero, another⟩
    exact absurd (alone (eq_zero_of_digit digit zero)) (by rw [EndsDigits, another]; decide)
  have exponent : ((left ++ tail).length : Int) - tail.length = left.length := by
    rw [List.length_append]
    omega
  simp only [readDigits, Text.digitValue?_of_isDigit digit, if_neg noSecond, taken,
    dropWhile_isDigit_append leftDigits stops, exponent]
  split
  next => rfl
  next => rfl
  next => rfl
  next noPoint noMark noCapital => exact (readBehind.eq_4 _ _ _ _ noPoint noMark noCapital).symm

/-- A number all of whose digits are gathered. -/
theorem readDigits_gathered (positive : Bool) {first : Char} (digit : first.isDigit = true)
    {rest tail : List Char} {significand : Nat} (alone : first = '0' → EndsDigits rest)
    (taken : takeDigits (first.toNat - '0'.toNat) rest = (significand, tail))
    (stops : EndsDigits tail) :
    readDigits positive (first :: rest) = readBehind positive significand 0 tail :=
  @readDigits_cons positive first digit rest [] tail significand alone taken (by simp) stops

theorem IsPlaces.endsDigits {places scale rest : List Char} (isPlaces : IsPlaces places)
    (isScale : IsScale scale) (ends : EndsNumeral rest) :
    EndsDigits (places ++ scale ++ rest) := by
  cases isPlaces with
  | none => exact isScale.endsDigits ends
  | point => rfl

theorem settled_readDigits (positive : Bool) {body : List Char} (unsigned : IsUnsigned body) :
    Settled (readDigits positive) body := by
  rcases unsigned with ⟨isWhole, isPlaces, isScale⟩
  rename_i whole places scale
  cases isWhole with
  | zero =>
      rcases settled_readBehind positive 0 0 isPlaces isScale with ⟨outcome, settled⟩
      refine ⟨outcome, fun rest ends => ?_⟩
      have stops := isPlaces.endsDigits isScale ends
      rw [← settled rest ends]
      exact readDigits_gathered positive rfl (fun _ => stops) (takeDigits_of_endsDigits 0 stops)
        stops
  | @digits first more nonzero digit digits =>
      rcases takeDigits_append digits (first.toNat - '0'.toNat) with
        ⟨gathered, left, leftDigits, -, taken⟩
      rcases settled_readBehind positive gathered left.length isPlaces isScale with
        ⟨outcome, settled⟩
      refine ⟨outcome, fun rest ends => ?_⟩
      have stops := isPlaces.endsDigits isScale ends
      rw [← settled rest ends, List.cons_append, List.cons_append, List.append_assoc]
      exact readDigits_cons positive (by simpa using digit) (fun zero => absurd zero nonzero)
        (taken _ stops) leftDigits stops

/-! ## Numerals -/

/-- The number that a numeral stands for. -/
def numeral (token : List Char) : Except Fault Number :=
  match readNumber? token with
  | some reading => reading.map Prod.fst
  | none => .error .malformed

theorem IsUnsigned.head_isDigit {body : List Char} (unsigned : IsUnsigned body) :
    ∃ first more, body = first :: more ∧ first.isDigit = true := by
  rcases unsigned with ⟨isWhole, -, -⟩
  cases isWhole with
  | zero => exact ⟨'0', _, rfl, rfl⟩
  | digits _ digit => exact ⟨_, _, rfl, by simpa using digit⟩

theorem IsNumeral.head {token : List Char} (isNumeral : IsNumeral token) :
    ∃ first more, token = first :: more ∧ (first = '-' ∨ first.isDigit = true) := by
  cases isNumeral with
  | positive unsigned =>
      rcases unsigned.head_isDigit with ⟨first, more, rfl, digit⟩
      exact ⟨first, more, rfl, .inr digit⟩
  | @negative body => exact ⟨'-', body, rfl, .inl rfl⟩

theorem IsNumeral.head_ne {token : List Char} (isNumeral : IsNumeral token) {c : Char}
    (noSign : c ≠ '-') (noDigit : c.isDigit = false) (rest more : List Char) :
    token ++ rest ≠ c :: more := by
  rcases isNumeral.head with ⟨first, others, rfl, sign | digit⟩
  · rintro same
    exact noSign ((List.head_eq_of_cons_eq same).symm.trans sign)
  · rintro same
    rw [List.head_eq_of_cons_eq same, noDigit] at digit
    cases digit

theorem IsNumeral.append_ne_nil {token : List Char} (isNumeral : IsNumeral token)
    (rest : List Char) : token ++ rest ≠ [] := by
  rcases isNumeral.head with ⟨first, more, rfl, -⟩
  exact List.cons_ne_nil first (more ++ rest)

theorem readNumber?_of_isDigit {first : Char} (digit : first.isDigit = true) (rest : List Char) :
    readNumber? (first :: rest) = some (readDigits true (first :: rest)) := by
  have noMinus : first ≠ '-' := by
    rintro rfl
    exact absurd digit (by decide)
  unfold readNumber?
  split
  next same => exact absurd (List.head_eq_of_cons_eq same) noMinus
  next same =>
    cases same
    rw [isDigit_eq, if_pos digit]
  next same => cases same

/-- A numeral in front of a text is read as by itself. -/
theorem readNumber?_append {token rest : List Char} (isNumeral : IsNumeral token)
    (ends : EndsNumeral rest) :
    readNumber? (token ++ rest) = some ((numeral token).map (·, rest)) := by
  -- The reading of the text and of the token alone have one outcome.
  have key : ∃ outcome : Except Fault Number,
      ∀ rest, EndsNumeral rest → readNumber? (token ++ rest) = some (outcome.map (·, rest)) := by
    cases isNumeral with
    | positive unsigned =>
        rcases settled_readDigits true unsigned with ⟨outcome, settled⟩
        refine ⟨outcome, fun rest ends => ?_⟩
        rcases unsigned.head_isDigit with ⟨first, more, rfl, digit⟩
        rw [← settled rest ends]
        exact readNumber?_of_isDigit digit (more ++ rest)
    | negative unsigned =>
        rcases settled_readDigits false unsigned with ⟨outcome, settled⟩
        exact ⟨outcome, fun rest ends => congrArg some (settled rest ends)⟩
  rcases key with ⟨outcome, settled⟩
  have alone := settled [] endsNumeral_nil
  rw [List.append_nil] at alone
  rw [settled rest ends, numeral, alone]
  cases outcome <;> rfl

/-! ## Passing over numerals -/

theorem IsDigits.head_any {digits : List Char} (isDigits : IsDigits digits) (rest : List Char) :
    (digits ++ rest).head?.any isDigit = true := by
  cases digits with
  | nil => exact absurd rfl isDigits.1
  | cons c digits => exact isDigits.2 c List.mem_cons_self

/-- Passes over the scale of a number. -/
def skipScale (rest : List Char) : Except Fault (List Char) :=
  let exponent :=
    match rest with
    | 'e' :: more => some more
    | 'E' :: more => some more
    | _ => none
  match exponent with
  | none => .ok rest
  | some more =>
    let digits :=
      match more with
      | '+' :: digits => digits
      | '-' :: digits => digits
      | digits => digits
    if digits.head?.any isDigit then .ok (digits.dropWhile isDigit) else .error .malformed

theorem skipScale_append {scale rest : List Char} (isScale : IsScale scale)
    (ends : EndsNumeral rest) : skipScale (scale ++ rest) = .ok rest := by
  cases isScale with
  | none =>
      have mark : ∀ c ∈ ['e', 'E'], rest.head? ≠ some c := by
        rintro c member first
        have stops := ends c first
        simp only [List.mem_cons, List.not_mem_nil, or_false] at member
        rcases member with rfl | rfl <;> exact absurd stops (by decide)
      unfold skipScale
      split
      next seen => exact absurd (congrArg List.head? seen) (mark 'e' (by simp))
      next seen => exact absurd (congrArg List.head? seen) (mark 'E' (by simp))
      next => rfl
  | @unsigned mark digits isMark isDigits =>
      have passed : skipScale ('e' :: (digits ++ rest)) = .ok rest := by
        simp only [skipScale]
        split
        next plus =>
          have digit := isDigits.head_any rest
          rw [plus] at digit
          cases digit
        next minus =>
          have digit := isDigits.head_any rest
          rw [minus] at digit
          cases digit
        next =>
          rw [if_pos (isDigits.head_any rest),
            dropWhile_isDigit_append isDigits.2 ends.endsDigits]
      rcases isMark with rfl | rfl <;> exact passed
  | @signed mark sign digits isMark isSign isDigits =>
      have passed : skipScale ('e' :: sign :: (digits ++ rest)) = .ok rest := by
        rcases isSign with rfl | rfl <;>
          simp only [skipScale, if_pos (isDigits.head_any rest),
            dropWhile_isDigit_append isDigits.2 ends.endsDigits]
      rcases isMark with rfl | rfl <;> exact passed

/-- Passes over what stands behind the digits in front of the point. -/
def skipBehind (rest : List Char) : Except Fault (List Char) :=
  match rest with
  | '.' :: fraction =>
    if fraction.head?.any isDigit then skipScale (fraction.dropWhile isDigit)
    else .error .malformed
  | _ => skipScale rest

theorem skipBehind_append {places scale rest : List Char} (isPlaces : IsPlaces places)
    (isScale : IsScale scale) (ends : EndsNumeral rest) :
    skipBehind (places ++ scale ++ rest) = .ok rest := by
  rw [← skipScale_append isScale ends]
  cases isPlaces with
  | point digits =>
      simp only [List.append_assoc, skipBehind, List.cons_append, if_pos (digits.head_any _),
        dropWhile_isDigit_append digits.2 (isScale.endsDigits ends)]
  | none =>
      unfold skipBehind
      split
      next point =>
        cases isScale with
        | none =>
            have first : rest.head? = some '.' := congrArg List.head? point
            exact absurd (ends '.' first) (by decide)
        | unsigned isMark => rcases isMark with rfl | rfl <;> cases point
        | signed isMark => rcases isMark with rfl | rfl <;> cases point
      next => rfl

theorem skipNumber_zero {tail : List Char} (stops : EndsDigits tail) :
    skipNumber ('0' :: tail) = skipBehind tail := by
  have noDigit : ¬ tail.head?.any isDigit = true := Bool.eq_false_iff.mp stops
  unfold skipNumber
  simp only [if_neg noDigit]
  unfold skipBehind
  rfl

theorem skipNumber_digit {first : Char} (nonzero : first ≠ '0') (digit : isDigit first = true)
    (rest : List Char) : skipNumber (first :: rest) = skipBehind (rest.dropWhile isDigit) := by
  unfold skipNumber
  split
  next zero => exact absurd (List.head_eq_of_cons_eq zero) nonzero
  next same =>
    cases same
    rw [if_pos digit]
    rfl
  next same => cases same

/-- A number is passed over up to its last character. -/
theorem skipNumber_append {body rest : List Char} (unsigned : IsUnsigned body)
    (ends : EndsNumeral rest) : skipNumber (body ++ rest) = .ok rest := by
  rcases unsigned with ⟨isWhole, isPlaces, isScale⟩
  have stops := isPlaces.endsDigits isScale ends
  have behind := skipBehind_append isPlaces isScale ends
  cases isWhole with
  | zero => exact (skipNumber_zero stops).trans behind
  | digits nonzero digit digits =>
      rw [← behind, List.cons_append, List.cons_append, skipNumber_digit nonzero digit,
        List.append_assoc, dropWhile_isDigit_append digits stops]

/-! ## Whole numbers -/

/-- Digits stand in front of a point when no other follows a zero. -/
theorem isWhole_of_alone {digits : List Char} (all : ∀ c ∈ digits, c.isDigit = true)
    (nonempty : digits ≠ []) (alone : ∀ more, digits = '0' :: more → more = []) :
    IsWhole digits := by
  cases digits with
  | nil => exact absurd rfl nonempty
  | cons first more =>
      by_cases zero : first = '0'
      · rw [zero, alone more (by rw [zero])]
        exact .zero
      · refine .digits zero ?_ fun c member => ?_
        · rw [isDigit_eq]
          exact all first List.mem_cons_self
        · rw [isDigit_eq]
          exact all c (List.mem_cons_of_mem first member)

theorem isWhole_ofNat (n : Nat) : IsWhole (Decimal.ofNat n) :=
  isWhole_of_alone (fun _ member => Decimal.isDigit_of_mem_ofNat member) (Decimal.ofNat_ne_nil n)
    (fun _ zero => Decimal.alone_of_ofNat zero)

theorem isDigits_ofNat (n : Nat) : IsDigits (Decimal.ofNat n) := by
  refine ⟨Decimal.ofNat_ne_nil n, fun c member => ?_⟩
  rw [isDigit_eq]
  exact Decimal.isDigit_of_mem_ofNat member

theorem isUnsigned_ofNat (n : Nat) : IsUnsigned (Decimal.ofNat n) := by
  have parts := IsUnsigned.parts (isWhole_ofNat n) .none .none
  rwa [List.append_nil, List.append_nil] at parts

/-- Digits of a number within 64 bits are read as that number. -/
theorem readDigits_ofNat (positive : Bool) {n : Nat} (fits : n < UInt64.size) :
    readDigits positive (Decimal.ofNat n) = .ok (wholeNumber positive n, []) := by
  have value := Decimal.value_ofNat n
  have all : ∀ c ∈ Decimal.ofNat n, c.isDigit = true :=
    fun c member => Decimal.isDigit_of_mem_ofNat member
  have alone : ∀ more, Decimal.ofNat n = '0' :: more → more = [] :=
    fun more zero => Decimal.alone_of_ofNat zero
  rcases List.exists_cons_of_ne_nil (Decimal.ofNat_ne_nil n) with ⟨first, more, digits⟩
  rw [digits] at all alone value ⊢
  rw [Nat.ofDigitChars_cons, Nat.mul_zero, Nat.zero_add] at value
  have taken := @takeDigits_of_lt more (fun c member => all c (List.mem_cons_of_mem first member))
    _ (value ▸ fits) [] rfl
  rw [List.append_nil, value] at taken
  rw [readDigits_gathered positive (all first List.mem_cons_self)
    (fun zero => alone more (by rw [zero]) ▸ rfl) taken rfl]
  rfl

theorem numeral_ofNat {n : Nat} (fits : n < UInt64.size) :
    numeral (Decimal.ofNat n) = .ok (.natural (UInt64.ofNat n)) := by
  rcases (isUnsigned_ofNat n).head_isDigit with ⟨first, more, digits, digit⟩
  have read := readDigits_ofNat true fits
  rw [digits] at read ⊢
  rw [numeral, readNumber?_of_isDigit digit, read]
  rfl

theorem numeral_negative {n : Nat} (positive : 0 < n) (fits : n ≤ 0x8000000000000000) :
    numeral ('-' :: Decimal.ofNat n) = .ok (.negative (-(n : Int))) := by
  have read := readDigits_ofNat false (n := n) (Nat.lt_of_le_of_lt fits (by decide))
  have inside : ¬ (n = 0 ∨ 0x8000000000000000 < n) := by omega
  rw [numeral, readNumber?, read, wholeNumber, if_neg Bool.false_ne_true, if_neg inside]
  rfl

end ReservationLoad.Json

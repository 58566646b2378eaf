import ReservationLoad.Proofs.Text.Digits

/-!
# The grammar of numerals

A numeral is a run of decimal digits, in front of which a plus sign may stand.
Zeros in front are allowed and there is no end to their number, so a numeral has
no greatest length; its value alone decides whether it is read.  Any other text
is refused for its first flaw.  White space around a numeral is a matter of its
own.
-/

namespace ReservationLoad.Text

/-- A numeral and the number that it stands for. -/
inductive IsNumeral : List Char → Nat → Prop
  | plain {digits : List Char} (some : digits ≠ []) (all : ∀ c ∈ digits, c.isDigit = true) :
    IsNumeral digits (Nat.ofDigitChars 10 digits 0)
  | signed {digits : List Char} (some : digits ≠ []) (all : ∀ c ∈ digits, c.isDigit = true) :
    IsNumeral ('+' :: digits) (Nat.ofDigitChars 10 digits 0)

/-- The first flaw of a text that is to go on with digits behind a value. -/
inductive FlawedDigits (limit value : Nat) : List Char → NumeralFault → Prop
  | strange {digits rest : List Char} {c : Char} (all : ∀ d ∈ digits, d.isDigit = true)
    (below : Nat.ofDigitChars 10 digits value < limit) (other : c.isDigit = false) :
    FlawedDigits limit value (digits ++ c :: rest) .strangeCharacter
  | tooLarge {digits rest : List Char} (all : ∀ d ∈ digits, d.isDigit = true)
    (above : limit ≤ Nat.ofDigitChars 10 digits value) :
    FlawedDigits limit value (digits ++ rest) .tooLarge

/-- The first flaw of a text that is no numeral below a limit. -/
inductive Flawed (limit : Nat) : List Char → NumeralFault → Prop
  | empty : Flawed limit [] .empty
  | bareSign : Flawed limit ['+'] .strangeCharacter
  | plain {text : List Char} {fault : NumeralFault} (unsigned : ∀ tail, text ≠ '+' :: tail)
    (flawed : FlawedDigits limit 0 text fault) : Flawed limit text fault
  | signed {digits : List Char} {fault : NumeralFault} (some : digits ≠ [])
    (flawed : FlawedDigits limit 0 digits fault) : Flawed limit ('+' :: digits) fault

/-- A text with white space in front of it and behind it. -/
inductive Padded (text : List Char) : List Char → Prop
  | mk {front behind : List Char} (blankFront : ∀ c ∈ front, isBlank c = true)
    (blankBehind : ∀ c ∈ behind, isBlank c = true) : Padded text (front ++ text ++ behind)

variable {limit value n : Nat} {text digits padded : List Char}

/-! ## Reading -/

/-- The digits are read as long as they make up a number below the limit, and
behind the limit there is no way back. -/
theorem readDigits_eq_ok_iff {fault : NumeralFault} (small : value < limit) :
    readDigits limit fault value text = .ok n ↔
      (∀ c ∈ text, c.isDigit = true) ∧ Nat.ofDigitChars 10 text value = n ∧ n < limit := by
  induction text generalizing value with
  | nil =>
      rw [readDigits, Except.ok.injEq, Nat.ofDigitChars_nil]
      constructor
      · rintro rfl
        exact ⟨List.forall_mem_nil _, rfl, small⟩
      · exact fun ⟨_, same, _⟩ => same
  | cons c text ih =>
      rw [readDigits, List.forall_mem_cons, Nat.ofDigitChars_cons]
      cases digit : c.isDigit with
      | false =>
          rw [digitValue?_eq_none digit]
          constructor
          · rintro ⟨⟩
          · rintro ⟨⟨⟨⟩, -⟩, -⟩
      | true =>
          rw [digitValue?_of_isDigit digit]
          simp only [true_and]
          split
          next below => exact ih below
          next above =>
            constructor
            · rintro ⟨⟩
            · rintro ⟨-, rfl, below⟩
              have grown := Decimal.le_ofDigitChars text (10 * value + (c.toNat - '0'.toNat))
              omega

/-- What is refused has a flaw, -/
theorem flawedDigits_of_readDigits {fault : NumeralFault} (small : value < limit)
    (refused : readDigits limit .tooLarge value text = .error fault) :
    FlawedDigits limit value text fault := by
  induction text generalizing value with
  | nil => cases refused
  | cons c text ih =>
      rw [readDigits] at refused
      cases digit : c.isDigit with
      | false =>
          rw [digitValue?_eq_none digit] at refused
          cases refused
          exact @FlawedDigits.strange limit value [] text c (List.forall_mem_nil _) small digit
      | true =>
          rw [digitValue?_of_isDigit digit] at refused
          dsimp only at refused
          split at refused
          next below =>
            cases ih below refused with
            | @strange digits rest c' all below other =>
                exact @FlawedDigits.strange limit value (c :: digits) rest c'
                  (List.forall_mem_cons.mpr ⟨digit, all⟩) (by rwa [Nat.ofDigitChars_cons]) other
            | @tooLarge digits rest all above =>
                exact @FlawedDigits.tooLarge limit value (c :: digits) rest
                  (List.forall_mem_cons.mpr ⟨digit, all⟩) (by rwa [Nat.ofDigitChars_cons])
          next above =>
            cases refused
            have alone : ∀ d ∈ [c], d.isDigit = true := List.forall_mem_singleton.mpr digit
            refine @FlawedDigits.tooLarge limit value [c] text alone ?_
            rw [Nat.ofDigitChars_cons, Nat.ofDigitChars_nil]
            exact Nat.le_of_not_lt above

/-- and what has a flaw is refused for it. -/
theorem FlawedDigits.readDigits_eq {fault : NumeralFault} (small : value < limit)
    (flawed : FlawedDigits limit value text fault) :
    readDigits limit .tooLarge value text = .error fault := by
  cases flawed with
  | @strange digits rest c all below other =>
      induction digits generalizing value with
      | nil => rw [List.nil_append, readDigits, digitValue?_eq_none other]
      | cons d digits ih =>
          rw [List.forall_mem_cons] at all
          rw [Nat.ofDigitChars_cons] at below
          have next := Nat.lt_of_le_of_lt (Decimal.le_ofDigitChars digits _) below
          rw [List.cons_append, readDigits, digitValue?_of_isDigit all.1]
          dsimp only
          rw [if_pos next]
          exact ih next all.2 below
  | @tooLarge digits rest all above =>
      induction digits generalizing value with
      | nil => exact absurd small (Nat.not_lt.mpr above)
      | cons d digits ih =>
          rw [List.forall_mem_cons] at all
          rw [Nat.ofDigitChars_cons] at above
          rw [List.cons_append, readDigits, digitValue?_of_isDigit all.1]
          dsimp only
          split
          next below => exact ih below all.2 above
          next => rfl

/-- A text that is no numeral below the limit is refused for its first flaw. -/
theorem readUnsigned_eq_error_iff {fault : NumeralFault} (positive : 0 < limit) :
    readUnsigned limit text = .error fault ↔ Flawed limit text fault := by
  constructor
  · intro refused
    unfold readUnsigned at refused
    split at refused
    · cases refused
      exact .empty
    · cases refused
      exact .bareSign
    next digits alone =>
      refine .signed ?_ (flawedDigits_of_readDigits positive refused)
      rintro rfl
      exact alone rfl
    next unsigned => exact .plain unsigned (flawedDigits_of_readDigits positive refused)
  · intro flawed
    cases flawed with
    | empty => rfl
    | bareSign => rfl
    | plain unsigned flawed =>
        have some : text ≠ [] := by
          rintro rfl
          cases flawed.readDigits_eq positive
        rw [readUnsigned]
        · exact flawed.readDigits_eq positive
        · exact some
        · exact unsigned []
        · exact unsigned
    | signed some flawed =>
        rw [readUnsigned]
        · exact flawed.readDigits_eq positive
        · exact some

/-- Just the numerals below the limit are read, each as its number. -/
theorem readUnsigned_eq_ok_iff (positive : 0 < limit) :
    readUnsigned limit text = .ok n ↔ IsNumeral text n ∧ n < limit := by
  constructor
  · intro read
    unfold readUnsigned at read
    split at read
    · cases read
    · cases read
    next digits alone =>
      obtain ⟨all, rfl, below⟩ := (readDigits_eq_ok_iff positive).mp read
      refine ⟨.signed ?_ all, below⟩
      rintro rfl
      exact alone rfl
    next digits nonempty _ _ =>
      obtain ⟨all, rfl, below⟩ := (readDigits_eq_ok_iff positive).mp read
      exact ⟨.plain nonempty all, below⟩
  · rintro ⟨numeral, below⟩
    cases numeral with
    | plain some all =>
        rw [readUnsigned]
        · exact (readDigits_eq_ok_iff positive).mpr ⟨all, rfl, below⟩
        · exact some
        · rintro rfl
          cases all '+' List.mem_cons_self
        · rintro digits rfl
          cases all '+' List.mem_cons_self
    | signed some all =>
        rw [readUnsigned]
        · exact (readDigits_eq_ok_iff positive).mpr ⟨all, rfl, below⟩
        · exact some

theorem readWord_eq_ok_iff {v : UInt64} : readWord text = .ok v ↔ IsNumeral text v.toNat := by
  have positive : 0 < UInt64.size := by decide
  rw [readWord]
  constructor
  · intro read
    cases unsigned : readUnsigned UInt64.size text with
    | error fault =>
        rw [unsigned] at read
        cases read
    | ok n =>
        obtain ⟨numeral, below⟩ := (readUnsigned_eq_ok_iff positive).mp unsigned
        rw [unsigned] at read
        cases read
        rw [UInt64.toNat_ofNat_of_lt' below]
        exact numeral
  · intro numeral
    rw [(readUnsigned_eq_ok_iff positive).mpr ⟨numeral, v.toNat_lt⟩]
    exact congrArg Except.ok UInt64.ofNat_toNat

theorem readWord_eq_error_iff {fault : NumeralFault} :
    readWord text = .error fault ↔ Flawed UInt64.size text fault := by
  rw [readWord, ← readUnsigned_eq_error_iff (by decide : 0 < UInt64.size)]
  cases readUnsigned UInt64.size text with
  | error cause => exact ⟨fun | rfl => rfl, fun | rfl => rfl⟩
  | ok n => exact ⟨nofun, nofun⟩

theorem isNumeral_ofNat (n : Nat) : IsNumeral (Decimal.ofNat n) n := by
  have numeral := IsNumeral.plain (Decimal.ofNat_ne_nil n)
    fun c (member : c ∈ Decimal.ofNat n) => Decimal.isDigit_of_mem_ofNat member
  rw [Decimal.value_ofNat] at numeral
  exact numeral

/-- A numeral is one of one number only. -/
theorem IsNumeral.unique {m : Nat} (one : IsNumeral text m) (other : IsNumeral text n) :
    m = n := by
  have noSign : ¬ '+'.isDigit = true := by decide
  cases one with
  | plain some all =>
      cases other with
      | plain => rfl
      | signed => exact absurd (all '+' List.mem_cons_self) noSign
  | signed some all =>
      cases other with
      | plain _ digits => exact absurd (digits '+' List.mem_cons_self) noSign
      | signed => rfl

/-! ## Signs -/

/-- A whole number as it is written: a numeral, or digits behind a minus sign. -/
inductive IsInteger : List Char → Int → Prop
  | natural {text : List Char} {n : Nat} (numeral : IsNumeral text n) : IsInteger text n
  | negative {digits : List Char} (some : digits ≠ []) (all : ∀ c ∈ digits, c.isDigit = true) :
    IsInteger ('-' :: digits) (-(Nat.ofDigitChars 10 digits 0 : Int))

theorem IsNumeral.head_ne_minus (numeral : IsNumeral text n) : ∀ tail, text ≠ '-' :: tail := by
  rintro tail rfl
  cases numeral with
  | plain some all => cases all '-' List.mem_cons_self

theorem IsInteger.unique {x y : Int} (one : IsInteger text x) (other : IsInteger text y) :
    x = y := by
  cases one with
  | natural numeral =>
      cases other with
      | natural numeral' => rw [numeral.unique numeral']
      | negative => exact absurd rfl (numeral.head_ne_minus _)
  | negative =>
      cases other with
      | natural numeral => exact absurd rfl (numeral.head_ne_minus _)
      | negative => rfl

theorem map_readDigits_eq_ok_iff (sign : Nat → Int) {fault : NumeralFault} {x : Int} :
    (readDigits (limit + 1) fault 0 text).map sign = .ok x ↔
      (∀ c ∈ text, c.isDigit = true) ∧ sign (Nat.ofDigitChars 10 text 0) = x ∧
        Nat.ofDigitChars 10 text 0 ≤ limit := by
  have digits : ∀ n, readDigits (limit + 1) fault 0 text = .ok n ↔ _ :=
    fun n => readDigits_eq_ok_iff (Nat.succ_pos limit)
  cases read : readDigits (limit + 1) fault 0 text with
  | error cause =>
      constructor
      · rintro ⟨⟩
      · rintro ⟨all, -, small⟩
        cases read.symm.trans ((digits _).mpr ⟨all, rfl, Nat.lt_succ_of_le small⟩)
  | ok n =>
      obtain ⟨all, rfl, small⟩ := (digits n).mp read
      constructor
      · rintro ⟨⟩
        exact ⟨all, rfl, Nat.le_of_lt_succ small⟩
      · rintro ⟨-, rfl, -⟩
        rfl

theorem readSigned_minus (some : digits ≠ []) :
    readSigned limit ('-' :: digits) =
      (readDigits (limit + 1 + 1) .tooSmall 0 digits).map fun n : Nat => -(n : Int) := by
  rw [readSigned]
  · cases readDigits (limit + 2) .tooSmall 0 digits <;> rfl
  · exact some

/-- Just the whole numbers within the limits are read, each as itself. -/
theorem readSigned_eq_ok_iff {x : Int} :
    readSigned limit text = .ok x ↔ IsInteger text x ∧ -(limit + 1 : Int) ≤ x ∧ x ≤ limit := by
  constructor
  · intro read
    have whole := read
    unfold readSigned at read
    split at read
    next => cases read
    next => cases read
    next => cases read
    next digits some =>
      obtain ⟨all, rfl, small⟩ := (map_readDigits_eq_ok_iff _).mp read
      rw [Int.ofNat_eq_natCast]
      exact ⟨.natural (.signed some all), by omega, by omega⟩
    next digits some =>
      rw [readSigned_minus some] at whole
      obtain ⟨all, rfl, small⟩ := (map_readDigits_eq_ok_iff _).mp whole
      exact ⟨.negative some all, by omega, by omega⟩
    next some _ _ _ _ =>
      obtain ⟨all, rfl, small⟩ := (map_readDigits_eq_ok_iff _).mp read
      rw [Int.ofNat_eq_natCast]
      exact ⟨.natural (.plain some all), by omega, by omega⟩
  · rintro ⟨integer, above, below⟩
    cases integer with
    | natural numeral =>
        cases numeral with
        | plain some all =>
            have noSign : ∀ sign tail, sign.isDigit = false → text ≠ sign :: tail := by
              rintro sign tail other rfl
              rw [all sign List.mem_cons_self] at other
              cases other
            rw [readSigned]
            · exact (map_readDigits_eq_ok_iff _).mpr ⟨all, rfl, by omega⟩
            · exact some
            · exact noSign _ _ rfl
            · exact noSign _ _ rfl
            · exact fun _ => noSign _ _ rfl
            · exact fun _ => noSign _ _ rfl
        | signed some all =>
            rw [readSigned]
            · exact (map_readDigits_eq_ok_iff _).mpr ⟨all, rfl, by omega⟩
            · exact some
    | negative some all =>
        rw [readSigned_minus some]
        exact (map_readDigits_eq_ok_iff _).mpr ⟨all, rfl, by omega⟩

/-! ## White space -/

theorem IsNumeral.not_blank (numeral : IsNumeral text n) : ∀ c ∈ text, isBlank c = false := by
  cases numeral with
  | plain some all => exact fun c member => isBlank_of_isDigit (all c member)
  | signed some all =>
      refine List.forall_mem_cons.mpr ⟨rfl, ?_⟩
      exact fun c member => isBlank_of_isDigit (all c member)

/-- Trimming takes off white space and nothing else. -/
theorem padded_trimBlank (text : List Char) : Padded (trimBlank text) text := by
  have blank : ∀ list : List Char, ∀ c ∈ list.takeWhile isBlank, isBlank c = true :=
    fun list c member => List.all_eq_true.mp List.all_takeWhile c member
  have back : (text.dropWhile isBlank).reverse.takeWhile isBlank ++
      (text.dropWhile isBlank).reverse.dropWhile isBlank = (text.dropWhile isBlank).reverse :=
    List.takeWhile_append_dropWhile
  have parts : text.takeWhile isBlank ++ trimBlank text ++
      ((text.dropWhile isBlank).reverse.takeWhile isBlank).reverse = text := by
    rw [trimBlank, List.append_assoc, ← List.reverse_append, back, List.reverse_reverse,
      List.takeWhile_append_dropWhile]
  have padded : Padded (trimBlank text) (text.takeWhile isBlank ++ trimBlank text ++
      ((text.dropWhile isBlank).reverse.takeWhile isBlank).reverse) :=
    .mk (blank text) fun c member => blank _ c (List.mem_reverse.mp member)
  rw [parts] at padded
  exact padded

/-- A text with no white space at its ends. -/
structure Tight (text : List Char) : Prop where
  head : ∀ c ∈ text.head?, isBlank c = false
  last : ∀ c ∈ text.getLast?, isBlank c = false

theorem IsNumeral.tight (numeral : IsNumeral text n) : Tight text where
  head c first := numeral.not_blank c (List.mem_of_mem_head? first)
  last c last := numeral.not_blank c (List.mem_of_mem_getLast? last)

theorem dropWhile_isBlank_of_head {text : List Char} (head : ∀ c ∈ text.head?, isBlank c = false) :
    text.dropWhile isBlank = text := by
  cases text with
  | nil => rfl
  | cons first more =>
      rw [List.dropWhile_cons_of_neg]
      rw [head first rfl]
      exact Bool.false_ne_true

theorem head_dropWhile_isBlank (text : List Char) :
    ∀ c ∈ (text.dropWhile isBlank).head?, isBlank c = false := by
  intro c first
  have stops := List.head?_dropWhile_not isBlank text
  rw [Option.mem_def.mp first] at stops
  exact stops

theorem tight_trimBlank (text : List Char) : Tight (trimBlank text) where
  head c first := by
    have parts : trimBlank text ++
        ((text.dropWhile isBlank).reverse.takeWhile isBlank).reverse = text.dropWhile isBlank := by
      rw [trimBlank, ← List.reverse_append, List.takeWhile_append_dropWhile, List.reverse_reverse]
    refine head_dropWhile_isBlank text c ?_
    rw [← parts, List.head?_append, Option.mem_def.mp first]
    rfl
  last c last := by
    rw [trimBlank, List.getLast?_reverse] at last
    exact head_dropWhile_isBlank _ c last

/-- What is tight between white space is what trimming leaves. -/
theorem trimBlank_of_padded (tight : Tight text) (isPadded : Padded text padded) :
    trimBlank padded = text := by
  cases isPadded with
  | @mk front behind blankFront blankBehind =>
    have back : ∀ c ∈ behind.reverse, isBlank c = true :=
      fun c member => blankBehind c (List.mem_reverse.mp member)
    rw [trimBlank, List.append_assoc, List.dropWhile_append_of_pos blankFront]
    cases text with
    | nil => 
        rw [List.nil_append, ← List.append_nil behind, List.dropWhile_append_of_pos blankBehind]
        rfl
    | cons first more =>
        rw [@dropWhile_isBlank_of_head (first :: more ++ behind) tight.head,
          List.reverse_append, List.dropWhile_append_of_pos back, dropWhile_isBlank_of_head,
          List.reverse_reverse]
        rw [List.head?_reverse]
        exact tight.last

/-- Padding around a numeral makes no difference, and only a numeral can be
read. -/
theorem readWord_trimBlank_eq_ok_iff {v : UInt64} :
    readWord (trimBlank padded) = .ok v ↔
      ∃ text, Padded text padded ∧ IsNumeral text v.toNat := by
  rw [readWord_eq_ok_iff]
  constructor
  · exact fun numeral => ⟨_, padded_trimBlank padded, numeral⟩
  · rintro ⟨text, isPadded, numeral⟩
    rw [trimBlank_of_padded numeral.tight isPadded]
    exact numeral

theorem readWord_trimBlank_eq_error_iff {fault : NumeralFault} :
    readWord (trimBlank padded) = .error fault ↔
      ∃ text, Padded text padded ∧ Tight text ∧ Flawed UInt64.size text fault := by
  rw [readWord_eq_error_iff]
  constructor
  · exact fun flawed => ⟨_, padded_trimBlank padded, tight_trimBlank padded, flawed⟩
  · rintro ⟨text, isPadded, tight, flawed⟩
    rw [trimBlank_of_padded tight isPadded]
    exact flawed

end ReservationLoad.Text

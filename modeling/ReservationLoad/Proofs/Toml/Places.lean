import ReservationLoad.Proofs.Toml.Draft

/-!
# Places of values

A place is the text from where the reader looks for a value.  There is one
behind every key of a document, and inside arrays and tables in braces there
are more.  A document with a place at which no value can be read is refused as
a whole.  That is the case for the digits of every number of more than 63 bits.
-/

namespace ReservationLoad.Toml

mutual

/-- Reading a value from `input`, the reader looks for one at `place`. -/
inductive ValuePlace (place : List Char) : (fuel depth : Nat) → (input : List Char) → Prop
  | here {fuel depth} : ValuePlace place fuel depth place
  | item {fuel depth rest} (inside : ItemPlace place fuel depth rest) :
      ValuePlace place (fuel + 1) (depth + 1) ('[' :: rest)
  | member {fuel depth rest} (inside : MemberPlace place fuel depth (skipSpace rest)) :
      ValuePlace place (fuel + 1) (depth + 1) ('\x7b' :: rest)

/-- The same for the items of an array. -/
inductive ItemPlace (place : List Char) : (fuel depth : Nat) → (input : List Char) → Prop
  | first {fuel depth input} (opens : ∀ tail, skipLayout input.length input ≠ ']' :: tail)
      (inside : ValuePlace place fuel depth (skipLayout input.length input)) :
      ItemPlace place (fuel + 1) depth input
  | later {fuel depth input item rest more}
      (opens : ∀ tail, skipLayout input.length input ≠ ']' :: tail)
      (read : readValue fuel depth (skipLayout input.length input) = some (item, rest))
      (comma : skipLayout rest.length rest = ',' :: more)
      (inside : ItemPlace place fuel depth more) : ItemPlace place (fuel + 1) depth input

/-- The same for the definitions of a table in braces. -/
inductive MemberPlace (place : List Char) : (fuel depth : Nat) → (input : List Char) → Prop
  | first {fuel depth input key rest}
      (named : readKey nestingLimit input = some (key, '=' :: rest))
      (inside : ValuePlace place fuel depth (skipSpace rest)) :
      MemberPlace place (fuel + 1) depth input
  | later {fuel depth input key rest value behind more}
      (named : readKey nestingLimit input = some (key, '=' :: rest))
      (read : readValue fuel depth (skipSpace rest) = some (value, behind))
      (comma : skipSpace behind = ',' :: more) (inside : MemberPlace place fuel depth more) :
      MemberPlace place (fuel + 1) depth input

end

/-- Reading statements from `input`, the reader looks for a value at `place`. -/
inductive StatementPlace (place : List Char) : (input : List Char) → Prop
  | value {input key rest} (named : readKey nestingLimit (skipSpace input) = some (key, '=' :: rest))
      (inside : ValuePlace place (2 * (skipSpace rest).length + 1) nestingLimit (skipSpace rest)) :
      StatementPlace place input
  | emptyLine {input rest} (skipped : skipSpace input = '\n' :: rest)
      (inside : StatementPlace place rest) : StatementPlace place input
  | comment {input text rest} (skipped : skipSpace input = '#' :: text)
      (ended : readLineEnd ('#' :: text) = some rest) (inside : StatementPlace place rest) :
      StatementPlace place input
  | later {input statement rest} (read : readStatement (skipSpace input) = some (statement, rest))
      (inside : StatementPlace place rest) : StatementPlace place input

/-- A place of a document. -/
def PlaceIn (text : String) (place : List Char) : Prop :=
  StatementPlace place (unifyLineBreaks (dropMark text.toList))

/-! ## Places without a value -/

/-- No value can be read here. -/
def Unreadable (place : List Char) : Prop := ∀ fuel depth, readValue fuel depth place = none

variable {place : List Char} {fuel depth : Nat}

/-- A key starts with a space, a quote or a character of a name. -/
theorem ne_cons_of_readKey {input : List Char} {parts : Nat} {result : Key × List Char}
    (read : readKey parts input = some result) {c : Char} (tight : isSpace c = false)
    (noBare : isBare c = false) (noQuote : c ≠ '"') (noApostrophe : c ≠ '\'')
    (tail : List Char) : input ≠ c :: tail := by
  rintro rfl
  have start : skipSpace (c :: tail) = c :: tail := by
    rw [skipSpace, List.dropWhile_cons_of_neg]
    rw [tight]
    exact Bool.false_ne_true
  have part : readKeyPart (c :: tail) = none := by
    rw [readKeyPart, List.takeWhile_cons_of_neg]
    · rw [noBare]
      exact Bool.false_ne_true
    · rintro _ ⟨⟩
      exact noQuote rfl
    · rintro _ ⟨⟩
      exact noApostrophe rfl
  cases parts with
  | zero => cases read
  | succ parts =>
      rw [readKey, start, part] at read
      cases read

theorem MemberPlace.ne_cons {input : List Char} (inside : MemberPlace place fuel depth input)
    (tail : List Char) : input ≠ '\x7d' :: tail := by
  cases inside with
  | first named inside => exact ne_cons_of_readKey named rfl rfl (by decide) (by decide) tail
  | later named read comma inside =>
      exact ne_cons_of_readKey named rfl rfl (by decide) (by decide) tail

theorem readExactly_singleton (c : Char) (rest : List Char) :
    readExactly [c] (c :: rest) = some rest := by
  simp [readExactly]

mutual

theorem readValue_of_place (unreadable : Unreadable place) {fuel depth : Nat}
    {input : List Char} : ValuePlace place fuel depth input → readValue fuel depth input = none
  | .here => unreadable fuel depth
  | .item inside => by
      rw [readValue, readItems_of_place unreadable inside]
      rfl
  | .member inside => by
      have unread := readDefinitions_of_place unreadable inside
      rw [readValue]
      split
      next same => exact absurd same (inside.ne_cons _)
      next =>
        rw [unread]
        rfl

theorem readItems_of_place (unreadable : Unreadable place) {fuel depth : Nat}
    {input : List Char} : ItemPlace place fuel depth input → readItems fuel depth input = none
  | .first opens inside => by
      have unread := readValue_of_place unreadable inside
      rw [readItems]
      split
      next same => exact absurd same (opens _)
      next =>
        rw [unread]
        rfl
  | .later opens read comma inside => by
      have unread := readItems_of_place unreadable inside
      rw [readItems]
      split
      next same => exact absurd same (opens _)
      next =>
        simp only [read, comma, unread, Option.bind_eq_bind, Option.bind_some, Option.bind_none]

theorem readDefinitions_of_place (unreadable : Unreadable place) {fuel depth : Nat}
    {input : List Char} :
    MemberPlace place fuel depth input → readDefinitions fuel depth input = none
  | .first named inside => by
      have unread := readValue_of_place unreadable inside
      simp only [readDefinitions, named, readExactly_singleton, unread, Option.bind_eq_bind,
        Option.bind_some, Option.bind_none]
  | .later named read comma inside => by
      have unread := readDefinitions_of_place unreadable inside
      simp only [readDefinitions, named, readExactly_singleton, read, comma, unread,
        Option.bind_eq_bind, Option.bind_some, Option.bind_none]

end

theorem readStatement_eq_none {input : List Char} {key : Key} {rest : List Char}
    (named : readKey nestingLimit input = some (key, '=' :: rest))
    (unread : readValue (2 * (skipSpace rest).length + 1) nestingLimit (skipSpace rest) = none) :
    readStatement input = none := by
  have noBracket := ne_cons_of_readKey named (c := '[') rfl rfl (by decide) (by decide)
  unfold readStatement
  split
  next => exact absurd rfl (noBracket _)
  next => exact absurd rfl (noBracket _)
  next =>
    simp only [named, readExactly_singleton, unread, Option.bind_eq_bind, Option.bind_some,
      Option.bind_none]

/-- Is this neither the end of the document nor an empty line or a comment? -/
structure StartsStatement (input : List Char) : Prop where
  nonempty : input ≠ []
  noBreak : ∀ tail, input ≠ '\n' :: tail
  noComment : ∀ tail, input ≠ '#' :: tail

theorem startsStatement_of_readKey {input : List Char} {result : Key × List Char}
    (read : readKey nestingLimit input = some result) : StartsStatement input where
  nonempty := by
    rintro rfl
    cases read
  noBreak := ne_cons_of_readKey read rfl rfl (by decide) (by decide)
  noComment := ne_cons_of_readKey read rfl rfl (by decide) (by decide)

theorem startsStatement_of_readStatement {input : List Char} {result : Statement × List Char}
    (read : readStatement input = some result) : StartsStatement input := by
  unfold readStatement at read
  split at read
  next => exact ⟨nofun, nofun, nofun⟩
  next => exact ⟨nofun, nofun, nofun⟩
  next =>
    cases named : readKey nestingLimit input with
    | none =>
        rw [named] at read
        cases read
    | some reading => exact startsStatement_of_readKey named

theorem readStatements_eq {input : List Char} (starts : StartsStatement (skipSpace input))
    (fuel : Nat) :
    readStatements (fuel + 1) input =
      (readStatement (skipSpace input)).bind fun reading =>
        (readStatements fuel reading.2).map (reading.1 :: ·) := by
  rw [readStatements]
  split
  next empty => exact absurd empty starts.nonempty
  next same => exact absurd same (starts.noBreak _)
  next same => exact absurd same (starts.noComment _)
  next =>
    cases readStatement (skipSpace input) with
    | none => rfl
    | some reading =>
        simp only [Option.bind_eq_bind, Option.bind_some]
        cases readStatements fuel reading.2 <;> rfl

theorem readStatements_of_place (unreadable : Unreadable place) {input : List Char}
    (reaches : StatementPlace place input) (fuel : Nat) : readStatements fuel input = none := by
  induction reaches generalizing fuel with
  | value named inside =>
      have unread := readStatement_eq_none named (readValue_of_place unreadable inside)
      cases fuel with
      | zero => rfl
      | succ fuel =>
          rw [readStatements_eq (startsStatement_of_readKey named), unread, Option.bind_none]
  | emptyLine skipped inside ih =>
      cases fuel with
      | zero => rfl
      | succ fuel => simp only [readStatements, skipped, ih]
  | comment skipped ended inside ih =>
      cases fuel with
      | zero => rfl
      | succ fuel => simp only [readStatements, skipped, ended, ih, Option.bind_some]
  | later read inside ih =>
      cases fuel with
      | zero => rfl
      | succ fuel =>
          rw [readStatements_eq (startsStatement_of_readStatement read), read, Option.bind_some,
            ih, Option.map_none]

/-- A document with a place at which no value can be read is no document. -/
theorem Table.read_of_place {text : String} (reaches : PlaceIn text place)
    (unreadable : Unreadable place) : Table.read text = none := by
  rw [Table.read, statements]
  simp only [readStatements_of_place unreadable reaches, Option.bind_eq_bind, Option.bind_none]

theorem unreadable_ofNat {n : Nat} (large : 0x8000000000000000 ≤ n) {rest : List Char}
    (closes : Closes rest) : Unreadable (Decimal.ofNat n ++ rest) := by
  rintro (_ | fuel) depth
  · rfl
  · rw [readValue, readScalar_ofNat closes, wholeOf_of_le large]
    · rfl
    · exact ofNat_append_ne rfl _
    · exact ofNat_append_ne rfl _

/-! ## Lines with a number -/

/-- The line that defines a key as a number. -/
def numberLine (key : String) (n : Nat) : List Char :=
  writtenKey key ++ ' ' :: '=' :: ' ' :: (Decimal.ofNat n ++ ['\n'])

theorem noReturn_numberLine (key : String) (n : Nat) : '\r' ∉ numberLine key n := by
  have noDigit : '\r' ∉ Decimal.ofNat n := fun inside => by
    cases Decimal.isDigit_of_mem_ofNat inside
  simp only [numberLine, List.mem_append, List.mem_cons, noReturn_writtenKey, noDigit,
    List.not_mem_nil]
  decide

theorem statementPlace_numberLine (key : String) (n : Nat) :
    StatementPlace (Decimal.ofNat n ++ ['\n']) (numberLine key n) := by
  have start : skipSpace (numberLine key n) = numberLine key n := skipSpace_writtenKey key _
  have named : readKey nestingLimit (numberLine key n) =
      some (⟨[], key⟩, '=' :: ' ' :: (Decimal.ofNat n ++ ['\n'])) := by
    refine readKey_written ?_ key ?_
    · rintro _ ⟨⟩
      rfl
    · rintro _ ⟨⟩
      decide
  have behind : skipSpace (' ' :: (Decimal.ofNat n ++ ['\n'])) = Decimal.ofNat n ++ ['\n'] :=
    skipSpace_eq fun tail => ⟨ofNat_append_ne rfl _ tail, ofNat_append_ne rfl _ tail⟩
  refine .value (start.symm ▸ named) ?_
  rw [behind]
  exact .here

theorem statementPlace_lines {rest : List Char} (reaches : StatementPlace place rest)
    (lines : List Line) : StatementPlace place (lines.flatMap Line.chars ++ rest) := by
  induction lines with
  | nil => exact reaches
  | cons line lines ih =>
      rw [List.flatMap_cons, List.append_assoc]
      have read := readStatement_line line (lines.flatMap Line.chars ++ rest)
      rw [← line.skipSpace_chars] at read
      exact .later read ih

/-- Behind other lines the reader comes to the number of such a line. -/
theorem placeIn_numberLine (lines : List Line) (key : String) (n : Nat) :
    PlaceIn (String.ofList (lines.flatMap Line.chars ++ numberLine key n))
      (Decimal.ofNat n ++ ['\n']) := by
  have noReturn : '\r' ∉ lines.flatMap Line.chars ++ numberLine key n := by
    rw [List.mem_append]
    exact not_or.mpr ⟨noReturn_lines lines, noReturn_numberLine key n⟩
  have noMark : ∀ tail, lines.flatMap Line.chars ++ numberLine key n ≠ '\uFEFF' :: tail := by
    intro tail
    cases lines with
    | nil => exact writtenKey_append_ne rfl (by decide) _ _
    | cons line lines =>
        rw [List.flatMap_cons, List.append_assoc]
        exact line.chars_append_ne rfl (by decide) (by decide) _ _
  rw [PlaceIn, String.toList_ofList, dropMark_eq noMark, unifyLineBreaks_eq noReturn]
  exact statementPlace_lines (statementPlace_numberLine key n) lines

end ReservationLoad.Toml

import ReservationLoad.Proofs.Toml.Scalar
import ReservationLoad.Toml.Assembly

/-!
# Drafts of TOML documents

A draft lists the definitions in front of the first header and then the tables,
each under its header with its own definitions, all in the order in which they
are to be written.  Its text is read as the table with just these entries.  What
a definition gives to its key may be anything that is read as a value.
-/

namespace ReservationLoad.Toml

theorem takeWhile_eq_nil {α : Type} {keeps : α → Bool} {list : List α}
    (stops : ∀ a ∈ list.head?, keeps a = false) : list.takeWhile keeps = [] := by
  cases list with
  | nil => rfl
  | cons a list =>
      rw [List.takeWhile_cons_of_neg]
      rw [stops a rfl]
      exact Bool.false_ne_true

theorem dropWhile_eq_self {α : Type} {drops : α → Bool} {list : List α}
    (stops : ∀ a ∈ list.head?, drops a = false) : list.dropWhile drops = list := by
  cases list with
  | nil => rfl
  | cons a list =>
      rw [List.dropWhile_cons_of_neg]
      rw [stops a rfl]
      exact Bool.false_ne_true

/-! ## Keys -/

/-- Only the characters of the text are looked at. -/
instance (text : List Char) : Decidable (∀ c ∈ text, isBare c = true) :=
  List.decidableBAll (fun c => isBare c = true) text

/-- A key, between quotes if it has to be. -/
def writtenKey (key : String) : List Char :=
  if key.toList ≠ [] ∧ ∀ c ∈ key.toList, isBare c = true then key.toList else writtenText key

theorem head_writtenKey (key : String) :
    ∃ first more, writtenKey key = first :: more ∧ (isBare first = true ∨ first = '"') := by
  unfold writtenKey
  split
  next bare =>
    obtain ⟨nonempty, all⟩ := bare
    obtain ⟨first, more, chars⟩ := List.exists_cons_of_ne_nil nonempty
    exact ⟨first, more, chars, .inl (all first (chars ▸ List.mem_cons_self))⟩
  next => exact ⟨'"', _, rfl, .inr rfl⟩

/-- No key starts with a character that has a meaning of its own. -/
theorem writtenKey_append_ne {key : String} {c : Char} (noBare : isBare c = false)
    (noQuote : c ≠ '"') (rest tail : List Char) : writtenKey key ++ rest ≠ c :: tail := by
  obtain ⟨first, more, chars, starts⟩ := head_writtenKey key
  rw [chars, List.cons_append]
  rintro ⟨⟩
  rcases starts with bare | quote
  · rw [noBare] at bare
    cases bare
  · exact noQuote quote

theorem eq_of_isSpace {c : Char} (space : isSpace c = true) : c = ' ' ∨ c = '\t' := by
  simpa only [isSpace, Bool.or_eq_true, decide_eq_true_eq] using space

theorem skipSpace_eq {input : List Char} (visible : ∀ tail, input ≠ ' ' :: tail ∧ input ≠ '\t' :: tail) :
    skipSpace input = input := by
  apply dropWhile_eq_self
  intro c first
  obtain ⟨tail, rfl⟩ := List.head?_eq_some_iff.mp first
  apply Bool.eq_false_iff.mpr
  intro space
  rcases eq_of_isSpace space with rfl | rfl
  · exact (visible tail).1 rfl
  · exact (visible tail).2 rfl

theorem skipSpace_writtenKey (key : String) (rest : List Char) :
    skipSpace (writtenKey key ++ rest) = writtenKey key ++ rest := by
  refine skipSpace_eq fun tail => ⟨?_, ?_⟩
  · exact writtenKey_append_ne rfl (by decide) _ _
  · exact writtenKey_append_ne rfl (by decide) _ _

variable {rest : List Char} (ends : ∀ c ∈ rest.head?, isBare c = false)

include ends in
theorem readKeyPart_written (key : String) :
    readKeyPart (writtenKey key ++ rest) = some (key, rest) := by
  unfold writtenKey
  split
  next bare =>
    obtain ⟨nonempty, all⟩ := bare
    have taken : (key.toList ++ rest).takeWhile isBare = key.toList := by
      rw [List.takeWhile_append_of_pos all, takeWhile_eq_nil ends, List.append_nil]
    have dropped : (key.toList ++ rest).dropWhile isBare = rest := by
      rw [List.dropWhile_append_of_pos all, dropWhile_eq_self ends]
    obtain ⟨first, more, chars⟩ := List.exists_cons_of_ne_nil nonempty
    have isBare := all first (chars ▸ List.mem_cons_self)
    unfold readKeyPart
    split
    next same =>
      rw [chars, List.cons_append] at same
      rw [List.head_eq_of_cons_eq same] at isBare
      cases isBare
    next same =>
      rw [chars, List.cons_append] at same
      rw [List.head_eq_of_cons_eq same] at isBare
      cases isBare
    next =>
      rw [taken, dropped]
      split
      next empty => exact absurd empty nonempty
      next => rw [String.ofList_toList]
  next =>
    have read := readLine_written key.toList rest
    rw [writtenText, List.cons_append, List.append_assoc, List.singleton_append, readKeyPart, read]
    simp only [Option.map_some, String.ofList_toList]

include ends in
theorem readKey_written (key : String) (whole : ∀ c ∈ (skipSpace rest).head?, c ≠ '.') :
    readKey nestingLimit (writtenKey key ++ rest) = some (⟨[], key⟩, skipSpace rest) := by
  rw [nestingLimit, readKey, skipSpace_writtenKey, readKeyPart_written ends key]
  simp only [Option.bind_eq_bind, Option.bind_some]
  split
  next behind dotted =>
    rw [dotted] at whole
    exact absurd rfl (whole '.' rfl)
  next => rfl

/-! ## Lines -/

/-- A definition: its key, the text of its value, and what the text stands for
wherever a line ends behind it. -/
structure Definition where
  key : String
  text : List Char
  node : Node
  tight : ∀ c ∈ text.head?, isSpace c = false
  noReturn : '\r' ∉ text
  reads : ∀ rest, readValue (2 * (text ++ '\n' :: rest).length + 1) nestingLimit
    (text ++ '\n' :: rest) = some (node, '\n' :: rest)

/-- One line of a draft. -/
inductive Line
  | definition (definition : Definition)
  | header (name : String)

namespace Line

def chars : Line → List Char
  | definition d => writtenKey d.key ++ ' ' :: '=' :: ' ' :: (d.text ++ ['\n'])
  | header name => '[' :: (writtenKey name ++ [']', '\n'])

def statement : Line → Statement
  | definition d => .define ⟨[], d.key⟩ d.node
  | header name => .openTable ⟨[], name⟩

end Line

theorem Definition.skipSpace_eq (d : Definition) (rest : List Char) :
    skipSpace (' ' :: (d.text ++ '\n' :: rest)) = d.text ++ '\n' :: rest := by
  rw [skipSpace, List.dropWhile_cons_of_pos rfl]
  apply dropWhile_eq_self
  intro c first
  cases text : d.text with
  | nil =>
      rw [text] at first
      cases first
      rfl
  | cons c' more =>
      rw [text] at first
      cases first
      exact d.tight c (by rw [text]; rfl)

theorem readStatement_definition (d : Definition) (rest : List Char) :
    readStatement ((Line.definition d).chars ++ rest) =
      some ((Line.definition d).statement, rest) := by
  have shape : (Line.definition d).chars ++ rest =
      writtenKey d.key ++ ' ' :: '=' :: ' ' :: (d.text ++ '\n' :: rest) := by
    simp [Line.chars]
  have key : readKey nestingLimit ((Line.definition d).chars ++ rest) =
      some (⟨[], d.key⟩, '=' :: ' ' :: (d.text ++ '\n' :: rest)) := by
    rw [shape]
    refine readKey_written ?_ d.key ?_
    · rintro _ ⟨⟩
      rfl
    · rintro _ ⟨⟩
      decide
  have equals : readExactly ['='] ('=' :: ' ' :: (d.text ++ '\n' :: rest)) =
      some (' ' :: (d.text ++ '\n' :: rest)) := rfl
  have ended : readLineEnd ('\n' :: rest) = some rest := rfl
  rw [shape] at key ⊢
  unfold readStatement
  split
  next same => exact absurd same (writtenKey_append_ne rfl (by decide) _ _)
  next same => exact absurd same (writtenKey_append_ne rfl (by decide) _ _)
  next =>
    simp only [key, equals, d.skipSpace_eq, d.reads, ended, Option.bind_eq_bind, Option.bind_some,
      Option.pure_def]
    rfl

theorem readStatement_header (name : String) (rest : List Char) :
    readStatement ((Line.header name).chars ++ rest) =
      some ((Line.header name).statement, rest) := by
  have shape : (Line.header name).chars ++ rest =
      '[' :: (writtenKey name ++ ']' :: '\n' :: rest) := by
    simp [Line.chars]
  have key : readKey nestingLimit (writtenKey name ++ ']' :: '\n' :: rest) =
      some (⟨[], name⟩, ']' :: '\n' :: rest) := by
    refine readKey_written ?_ name ?_
    · rintro _ ⟨⟩
      rfl
    · rintro _ ⟨⟩
      decide
  have bracket : readExactly [']'] (']' :: '\n' :: rest) = some ('\n' :: rest) := rfl
  have ended : readLineEnd ('\n' :: rest) = some rest := rfl
  rw [shape]
  unfold readStatement
  split
  next same =>
    exact absurd (List.tail_eq_of_cons_eq same) (writtenKey_append_ne rfl (by decide) _ _)
  next same =>
    cases List.tail_eq_of_cons_eq same
    simp only [readHeader, key, bracket, ended, Option.bind_eq_bind, Option.bind_some,
      Option.pure_def, Option.map_some]
    rfl
  next noHeader => exact absurd rfl (noHeader _)

theorem readStatement_line (line : Line) (rest : List Char) :
    readStatement (line.chars ++ rest) = some (line.statement, rest) := by
  cases line with
  | definition d => exact readStatement_definition d rest
  | header name => exact readStatement_header name rest

/-- A line starts with a key or a bracket. -/
theorem Line.chars_append_ne (line : Line) {c : Char} (noBare : isBare c = false)
    (noQuote : c ≠ '"') (noBracket : c ≠ '[') (rest tail : List Char) :
    line.chars ++ rest ≠ c :: tail := by
  cases line with
  | definition d =>
      rw [chars, List.append_assoc]
      exact writtenKey_append_ne noBare noQuote _ _
  | header name =>
      rintro ⟨⟩
      exact noBracket rfl

theorem Line.chars_append_ne_nil (line : Line) (rest : List Char) : line.chars ++ rest ≠ [] := by
  cases line <;> simp [chars]

theorem Line.skipSpace_chars (line : Line) (rest : List Char) :
    skipSpace (line.chars ++ rest) = line.chars ++ rest :=
  skipSpace_eq fun _ =>
    ⟨line.chars_append_ne rfl (by decide) (by decide) _ _,
      line.chars_append_ne rfl (by decide) (by decide) _ _⟩

theorem readStatements_lines {lines : List Line} {fuel : Nat} (enough : lines.length < fuel) :
    readStatements fuel (lines.flatMap Line.chars) = some (lines.map Line.statement) := by
  induction lines generalizing fuel with
  | nil =>
      cases fuel with
      | zero => cases enough
      | succ fuel => rfl
  | cons line lines ih =>
      cases fuel with
      | zero => cases enough
      | succ fuel =>
          have more := ih (Nat.lt_of_succ_lt_succ enough)
          rw [List.flatMap_cons, readStatements, line.skipSpace_chars]
          split
          next empty => cases line.chars_append_ne_nil _ empty
          next same => exact absurd same (line.chars_append_ne rfl (by decide) (by decide) _ _)
          next same => exact absurd same (line.chars_append_ne rfl (by decide) (by decide) _ _)
          next =>
            simp only [readStatement_line, more, Option.bind_eq_bind, Option.bind_some,
              Option.pure_def, List.map_cons]

/-! ## Tables -/

theorem get?_eq_none {t : Table} {key : String} (missing : key ∉ t.entries.map Prod.fst) :
    t.get? key = none := by
  rw [Table.get?, List.lookup_eq_none_iff]
  intro entry inside
  apply bne_iff_ne.mpr
  rintro rfl
  exact missing (List.mem_map_of_mem inside)

theorem name_not_mem {front behind : Entries} {entry : String × Node}
    (distinct : ((front ++ entry :: behind).map Prod.fst).Nodup) :
    entry.1 ∉ front.map Prod.fst := by
  rw [List.map_append, List.map_cons] at distinct
  intro inside
  exact (List.nodup_append.mp distinct).2.2 _ inside _ List.mem_cons_self rfl

/-- A new key of a table with a header is put behind the others. -/
theorem define_eq {entries : Entries} {key : String} (missing : key ∉ entries.map Prod.fst)
    (node : Node) :
    Table.define ⟨.header, entries⟩ ⟨[], key⟩ node =
      some ⟨.header, entries ++ [(key, node)]⟩ := by
  have fresh := get?_eq_none (t := ⟨.header, entries⟩) missing
  simp [Table.define, Table.within, fresh, Table.append]

theorem settle_eq {entries : Entries} {name : String} (missing : name ∉ entries.map Prod.fst)
    (table : Table) :
    Assembly.settle ⟨[], name⟩ table ⟨.header, entries⟩ =
      some ⟨.header, entries ++ [(name, .table table.origin table.entries)]⟩ := by
  have fresh := get?_eq_none (t := ⟨.header, entries⟩) missing
  simp [Assembly.settle, Table.within, fresh, Table.append]

theorem reopen_eq {entries : Entries} {name : String} (missing : name ∉ entries.map Prod.fst) :
    Assembly.reopen ⟨[], name⟩ ⟨.header, entries⟩ = some (⟨.header, entries⟩, []) := by
  have fresh := get?_eq_none (t := ⟨.header, entries⟩) missing
  simp [Assembly.reopen, Table.within, fresh]

/-- The definition as an entry of its table. -/
def Definition.entry (d : Definition) : String × Node := (d.key, d.node)

/-- Definitions are added to the open table one after another. -/
theorem foldlM_definitions {definitions : List Definition} {closed : Table} {place : Place}
    {entries : Entries}
    (distinct : ((entries ++ definitions.map Definition.entry).map Prod.fst).Nodup) :
    (definitions.map fun d => (Line.definition d).statement).foldlM Assembly.apply
        ⟨closed, ⟨.header, entries⟩, place⟩ =
      some ⟨closed, ⟨.header, entries ++ definitions.map Definition.entry⟩, place⟩ := by
  induction definitions generalizing entries with
  | nil =>
      rw [List.map_nil, List.map_nil, List.append_nil]
      rfl
  | cons d definitions ih =>
      rw [List.map_cons] at distinct
      have missing : d.key ∉ entries.map Prod.fst := name_not_mem distinct
      have step : Assembly.apply ⟨closed, ⟨.header, entries⟩, place⟩ (Line.definition d).statement =
          some ⟨closed, ⟨.header, entries ++ [d.entry]⟩, place⟩ := by
        simp only [Line.statement, Assembly.apply, define_eq missing, Option.bind_eq_bind,
          Option.bind_some, Option.pure_def]
        rfl
      rw [List.append_cons] at distinct
      rw [List.map_cons, List.foldlM_cons, step, Option.bind_eq_bind, Option.bind_some, ih distinct,
        List.map_cons, List.append_assoc, List.singleton_append]

/-! ## Drafts -/

/-- A table under its header. -/
structure Section where
  name : String
  definitions : List Definition
  distinct : (definitions.map Definition.key).Nodup

namespace Section

def entries (s : Section) : Entries := s.definitions.map Definition.entry

def entry (s : Section) : String × Node := (s.name, .table .header s.entries)

def lines (s : Section) : List Line := .header s.name :: s.definitions.map .definition

theorem names_entries (s : Section) : s.entries.map Prod.fst = s.definitions.map Definition.key := by
  rw [entries, List.map_map]
  rfl

/-- A table whose name is new is put behind the entries of the document when the
next header closes it. -/
theorem exists_foldlM (s : Section) {a : Assembly} {entries : Entries}
    (closes : a.close = some ⟨.header, entries⟩) (missing : s.name ∉ entries.map Prod.fst) :
    ∃ a', (s.lines.map Line.statement).foldlM Assembly.apply a = some a' ∧
      a'.close = some ⟨.header, entries ++ [s.entry]⟩ := by
  have opened : a.apply (Line.header s.name).statement =
      some ⟨⟨.header, entries⟩, ⟨.header, []⟩, .single ⟨[], s.name⟩⟩ := by
    simp only [Line.statement, Assembly.apply, closes, reopen_eq missing, Option.bind_eq_bind,
      Option.bind_some, Option.pure_def]
  have distinct : (([] ++ s.definitions.map Definition.entry).map Prod.fst).Nodup := by
    rw [List.nil_append]
    exact s.names_entries ▸ s.distinct
  refine ⟨⟨⟨.header, entries⟩, ⟨.header, s.entries⟩, .single ⟨[], s.name⟩⟩, ?_, ?_⟩
  · rw [lines, List.map_cons, List.foldlM_cons, opened, Option.bind_eq_bind, Option.bind_some,
      List.map_map]
    exact foldlM_definitions distinct
  · exact settle_eq missing ⟨.header, s.entries⟩

end Section

/-- The tables are put behind the entries of the document one after another. -/
theorem exists_foldlM_sections {sections : List Section} {a : Assembly} {entries : Entries}
    (closes : a.close = some ⟨.header, entries⟩)
    (distinct : ((entries ++ sections.map Section.entry).map Prod.fst).Nodup) :
    ∃ a', ((sections.flatMap Section.lines).map Line.statement).foldlM Assembly.apply a = some a' ∧
      a'.close = some ⟨.header, entries ++ sections.map Section.entry⟩ := by
  induction sections generalizing a entries with
  | nil =>
      refine ⟨a, rfl, ?_⟩
      rw [closes, List.map_nil, List.append_nil]
  | cons s sections ih =>
      rw [List.map_cons] at distinct
      obtain ⟨later, moved, closes⟩ := s.exists_foldlM closes (name_not_mem distinct)
      rw [List.append_cons] at distinct
      obtain ⟨last, others, closes⟩ := ih closes distinct
      refine ⟨last, ?_, ?_⟩
      · rw [List.flatMap_cons, List.map_append, List.foldlM_append, moved, Option.bind_eq_bind,
          Option.bind_some, others]
      · rw [closes, List.map_cons, List.append_assoc, List.singleton_append]

/-- A document: the definitions in front of the first header, and the tables. -/
structure Draft where
  front : List Definition
  sections : List Section
  distinct : (front.map Definition.key ++ sections.map Section.name).Nodup

namespace Draft

def entries (d : Draft) : Entries :=
  d.front.map Definition.entry ++ d.sections.map Section.entry

def lines (d : Draft) : List Line := d.front.map .definition ++ d.sections.flatMap Section.lines

def text (d : Draft) : String := String.ofList (d.lines.flatMap Line.chars)

theorem names_entries (d : Draft) :
    d.entries.map Prod.fst = d.front.map Definition.key ++ d.sections.map Section.name := by
  rw [entries, List.map_append, List.map_map, List.map_map]
  rfl

/-- The statements of a draft build the table with its entries. -/
theorem ofStatements_lines (d : Draft) :
    Table.ofStatements (d.lines.map Line.statement) = some ⟨.header, d.entries⟩ := by
  have distinct : (d.entries.map Prod.fst).Nodup := d.names_entries ▸ d.distinct
  have front : (([] ++ d.front.map Definition.entry).map Prod.fst).Nodup := by
    rw [entries, List.map_append] at distinct
    exact (List.nodup_append.mp distinct).1
  have whole : (d.front.map fun d => (Line.definition d).statement).foldlM Assembly.apply
      Assembly.start = some ⟨.fresh .header, ⟨.header, d.front.map Definition.entry⟩, .whole⟩ :=
    foldlM_definitions front
  obtain ⟨last, built, closes⟩ :=
    exists_foldlM_sections (a := ⟨.fresh .header, ⟨.header, d.front.map Definition.entry⟩, .whole⟩)
      rfl distinct
  have joined : (d.lines.map Line.statement).foldlM Assembly.apply Assembly.start = some last := by
    rw [lines, List.map_append, List.map_map, List.foldlM_append]
    change ((d.front.map fun d => (Line.definition d).statement).foldlM _ _ >>= _) = _
    rw [whole, Option.bind_eq_bind, Option.bind_some]
    exact built
  rw [Table.ofStatements, joined, Option.bind_eq_bind, Option.bind_some, closes]
  rfl

end Draft

/-! ## Characters -/

theorem unifyLineBreaks_eq {input : List Char} (noReturn : '\r' ∉ input) :
    unifyLineBreaks input = input := by
  induction input with
  | nil => rfl
  | cons c rest ih =>
      rw [List.mem_cons, not_or] at noReturn
      obtain ⟨first, others⟩ := noReturn
      rw [unifyLineBreaks, ih others]
      intro behind same
      exact absurd same.symm first

theorem dropMark_eq {input : List Char} (noMark : ∀ tail, input ≠ '\uFEFF' :: tail) :
    dropMark input = input := by
  unfold dropMark
  split
  next => exact absurd rfl (noMark _)
  next => rfl

theorem digitChar_ne_return {digit : Nat} (small : digit < 0x10) : digit.digitChar ≠ '\r' := by
  revert digit
  decide

theorem noReturn_writtenChar (c : Char) : '\r' ∉ writtenChar c := by
  unfold writtenChar Json.escapedChar
  iterate 8
    split
    next => decide
  split
  next control =>
    have high : (c.toNat / 16).digitChar ≠ '\r' := digitChar_ne_return (by omega)
    have low : (c.toNat % 16).digitChar ≠ '\r' := digitChar_ne_return (by omega)
    rw [(Json.hexQuad?_seven (Nat.lt_trans control (by decide))).1]
    simp only [List.mem_cons, List.not_mem_nil, high.symm, low.symm]
    decide
  next noReturn _ _ _ _ =>
    rw [List.mem_singleton]
    exact fun same => noReturn same.symm

theorem noReturn_writtenText (text : String) : '\r' ∉ writtenText text := by
  rw [writtenText, List.mem_cons, List.mem_append, List.mem_flatMap]
  rintro (quote | ⟨c, -, inside⟩ | quote)
  · cases quote
  · exact noReturn_writtenChar c inside
  · cases List.mem_singleton.mp quote

theorem noReturn_writtenKey (key : String) : '\r' ∉ writtenKey key := by
  unfold writtenKey
  split
  next bare =>
    intro inside
    cases bare.2 _ inside
  next => exact noReturn_writtenText key

theorem noReturn_chars (line : Line) : '\r' ∉ line.chars := by
  cases line with
  | definition d =>
      simp only [Line.chars, List.mem_append, List.mem_cons, noReturn_writtenKey, d.noReturn,
        List.not_mem_nil]
      decide
  | header name =>
      simp only [Line.chars, List.mem_append, List.mem_cons, noReturn_writtenKey,
        List.not_mem_nil]
      decide

theorem noReturn_lines (lines : List Line) : '\r' ∉ lines.flatMap Line.chars := by
  rw [List.mem_flatMap]
  rintro ⟨line, -, inside⟩
  exact noReturn_chars line inside

theorem length_le_length_chars (lines : List Line) :
    lines.length ≤ (lines.flatMap Line.chars).length := by
  induction lines with
  | nil => exact Nat.le_refl _
  | cons line lines ih =>
      have some := List.length_pos_iff.mpr (line.chars_append_ne_nil [])
      rw [List.append_nil] at some
      rw [List.flatMap_cons, List.length_cons, List.length_append]
      omega

/-- The text of a draft is read as the table with its entries. -/
theorem Draft.read_text (d : Draft) : Table.read d.text = some ⟨.header, d.entries⟩ := by
  have noMark : ∀ tail, d.lines.flatMap Line.chars ≠ '\uFEFF' :: tail := by
    intro tail
    cases d.lines with
    | nil =>
        rintro ⟨⟩
    | cons line lines =>
        rw [List.flatMap_cons]
        exact line.chars_append_ne rfl (by decide) (by decide) _ _
  have enough := Nat.lt_succ_of_le (length_le_length_chars d.lines)
  rw [Table.read, statements, text, String.toList_ofList]
  simp only [dropMark_eq noMark, unifyLineBreaks_eq (noReturn_lines _), readStatements_lines enough,
    Option.bind_eq_bind, Option.bind_some, d.ofStatements_lines]

/-! ## Definitions of scalars -/

theorem readValue_of_readScalar {fuel : Nat} {input rest : List Char} {scalar : Scalar}
    (read : readScalar input = some (scalar, rest)) (noList : ∀ tail, input ≠ '[' :: tail)
    (noTable : ∀ tail, input ≠ '\x7b' :: tail) :
    readValue (fuel + 1) nestingLimit input = some (.scalar scalar, rest) := by
  rw [readValue, read]
  · rfl
  · exact noList
  · exact noTable

namespace Definition

def ofText (key value : String) : Definition where
  key
  text := writtenText value
  node := .scalar (.text value)
  tight := by
    rintro _ ⟨⟩
    rfl
  noReturn := noReturn_writtenText value
  reads rest := readValue_of_readScalar (readScalar_written value rest) nofun nofun

def ofWhole (key : String) (n : Nat) (small : n < 0x8000000000000000) : Definition where
  key
  text := Decimal.ofNat n
  node := .scalar (.whole n)
  tight := by
    intro c first
    have digit := Decimal.isDigit_of_mem_ofNat (List.mem_of_mem_head? first)
    apply Bool.eq_false_iff.mpr
    intro space
    rcases eq_of_isSpace space with rfl | rfl <;> cases digit
  noReturn inside := by cases Decimal.isDigit_of_mem_ofNat inside
  reads rest := by
    refine readValue_of_readScalar ?_ (ofNat_append_ne rfl _) (ofNat_append_ne rfl _)
    rw [readScalar_ofNat (closes_cons (by decide) rest), wholeOf_of_lt small]
    rfl

end Definition

end ReservationLoad.Toml

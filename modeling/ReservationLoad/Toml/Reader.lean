import ReservationLoad.Toml.Scalar

/-!
# Reading TOML

A document is a list of statements: definitions of keys, and headers that say
into which table the definitions behind them go.  This module reads the
statements and the values in them; what the statements build is the matter of
`ReservationLoad.Toml.Assembly`.

A document that breaks the rules is refused as a whole, without a cause.
-/

namespace ReservationLoad.Toml

/-- One statement of a document. -/
inductive Statement
  | define (key : Key) (value : Node)
  | openTable (key : Key)
  /-- Opens a further table under a repeated header. -/
  | openNext (key : Key)

/-- The text behind spaces and tabs. -/
def skipSpace (input : List Char) : List Char := input.dropWhile isSpace

/-- The text behind a comment, if there is one. -/
def skipComment : List Char → List Char
  | '#' :: rest => rest.dropWhile isPlain
  | rest => rest

/-- Reads the end of a line, in front of which a comment may stand. -/
def readLineEnd (input : List Char) : Option (List Char) :=
  match skipComment (skipSpace input) with
  | [] => some []
  | '\n' :: rest => some rest
  | _ => none

/-- Passes over white space, line breaks and comments inside an array. -/
def skipLayout : Nat → List Char → List Char
  | 0, input => input
  | fuel + 1, input =>
    match skipSpace input with
    | '\n' :: rest => skipLayout fuel rest
    | '#' :: rest => skipLayout fuel (rest.dropWhile isPlain)
    | rest => rest

/-! ## Keys -/

/-- A character of a key without quotes. -/
def isBare (c : Char) : Bool := c.isAlphanum || c = '-' || c = '_'

/-- Reads one part of a key. -/
def readKeyPart : List Char → Option (String × List Char)
  | '"' :: rest => (readLine rest).map fun (text, rest) => (String.ofList text, rest)
  | '\'' :: rest => (readLiteral rest).map fun (text, rest) => (String.ofList text, rest)
  | input =>
    match input.takeWhile isBare with
    | [] => none
    | part => some (String.ofList part, input.dropWhile isBare)

/-- The greatest number of parts of a key, and the greatest depth of arrays
and tables in braces. -/
def nestingLimit : Nat := 79

/-- Reads a key of at most `parts` parts with the spaces around it. -/
def readKey : (parts : Nat) → List Char → Option (Key × List Char)
  | 0, _ => none
  | parts + 1, input => do
    let (part, rest) ← readKeyPart (skipSpace input)
    match skipSpace rest with
    | '.' :: rest =>
      let (key, rest) ← readKey parts rest
      pure ({ key with path := part :: key.path }, rest)
    | rest => pure (⟨[], part⟩, rest)

/-! ## Values -/

mutual

/-- Reads a value that may hold `depth` levels of brackets. -/
def readValue : (fuel : Nat) → (depth : Nat) → List Char → Option (Node × List Char)
  | 0, _, _ => none
  | fuel + 1, depth, input =>
    match input with
    | '[' :: rest =>
      match depth with
      | 0 => none
      | depth + 1 =>
        (readItems fuel depth rest).map fun (items, rest) => (.array items, rest)
    | '{' :: rest =>
      match depth with
      | 0 => none
      | depth + 1 => do
        let (definitions, rest) ←
          match skipSpace rest with
          | '}' :: rest => pure ([], rest)
          | rest => readDefinitions fuel depth rest
        let table ← Table.ofDefinitions definitions
        pure (.inline table.entries, rest)
    | _ => (readScalar input).map fun (scalar, rest) => (.scalar scalar, rest)

/-- Reads the items of an array up to its closing bracket.  A comma may
follow the last item. -/
def readItems : (fuel : Nat) → (depth : Nat) → List Char → Option (List Node × List Char)
  | 0, _, _ => none
  | fuel + 1, depth, input =>
    match skipLayout input.length input with
    | ']' :: rest => some ([], rest)
    | start => do
      let (item, rest) ← readValue fuel depth start
      match skipLayout rest.length rest with
      | ',' :: rest =>
        let (items, rest) ← readItems fuel depth rest
        pure (item :: items, rest)
      | ']' :: rest => pure ([item], rest)
      | _ => none

/-- Reads the definitions of a table in braces up to its closing brace. -/
def readDefinitions :
    (fuel : Nat) → (depth : Nat) → List Char → Option (List (Key × Node) × List Char)
  | 0, _, _ => none
  | fuel + 1, depth, input => do
    let (key, rest) ← readKey nestingLimit input
    let rest ← readExactly ['='] rest
    let (value, rest) ← readValue fuel depth (skipSpace rest)
    match skipSpace rest with
    | ',' :: rest =>
      let (more, rest) ← readDefinitions fuel depth rest
      pure ((key, value) :: more, rest)
    | '}' :: rest => pure ([(key, value)], rest)
    | _ => none

end

/-! ## Statements -/

/-- Reads a key and the brackets behind it. -/
def readHeader (brackets : List Char) (input : List Char) : Option (Key × List Char) := do
  let (key, rest) ← readKey nestingLimit input
  let rest ← readExactly brackets rest
  pure (key, rest)

/-- Reads one statement up to the end of its line. -/
def readStatement (input : List Char) : Option (Statement × List Char) := do
  let (statement, rest) ←
    match input with
    | '[' :: '[' :: rest =>
      (readHeader [']', ']'] rest).map fun (key, rest) => (Statement.openNext key, rest)
    | '[' :: rest =>
      (readHeader [']'] rest).map fun (key, rest) => (Statement.openTable key, rest)
    | input => do
      let (key, rest) ← readKey nestingLimit input
      let rest ← readExactly ['='] rest
      let start := skipSpace rest
      let (value, rest) ← readValue (2 * start.length + 1) nestingLimit start
      pure (.define key value, rest)
  let rest ← readLineEnd rest
  pure (statement, rest)

/-- Reads statements and the empty lines and comments between them. -/
def readStatements : (fuel : Nat) → List Char → Option (List Statement)
  | 0, _ => none
  | fuel + 1, input =>
    match skipSpace input with
    | [] => some []
    | '\n' :: rest => readStatements fuel rest
    | '#' :: rest => (readLineEnd ('#' :: rest)).bind (readStatements fuel)
    | start => do
      let (statement, rest) ← readStatement start
      let more ← readStatements fuel rest
      pure (statement :: more)

/-- A document with one kind of line break: a carriage return in front of a
line feed does not count. -/
def unifyLineBreaks : List Char → List Char
  | '\r' :: '\n' :: rest => '\n' :: unifyLineBreaks rest
  | c :: rest => c :: unifyLineBreaks rest
  | [] => []

/-- A document without the mark that may stand in front of it. -/
def dropMark : List Char → List Char
  | '\uFEFF' :: rest => rest
  | rest => rest

/-- The statements of a document. -/
def statements (text : String) : Option (List Statement) :=
  let input := unifyLineBreaks (dropMark text.toList)
  readStatements (input.length + 1) input

end ReservationLoad.Toml

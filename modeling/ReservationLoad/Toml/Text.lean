import ReservationLoad.Json.Token

/-!
# Texts of a TOML document

A text stands between quotes, plain or threefold.  Between double quotes a
backslash starts an escape; between single quotes every character stands for
itself.  Each of the four notations is a small machine that takes one
character at a time.
-/

namespace ReservationLoad.Toml

/-- Space and tab. -/
def isSpace (c : Char) : Bool := c = ' ' || c = '\t'

/-- A character that may stand in a text or a comment: a tab, or anything
that is not a control character. -/
def isPlain (c : Char) : Bool := c = '\t' || (0x20 ≤ c.toNat && c.toNat ≠ 0x7F)

/-- What a character does to a text that is being read. -/
inductive Move (σ : Type)
  | refuse
  /-- Adds characters to the text and goes on. -/
  | go (added : List Char) (next : σ)
  /-- The text ends with these characters and the character at hand. -/
  | last (added : List Char)
  /-- The text has ended in front of the character at hand. -/
  | before (added : List Char)

/-- Lets a machine read the inside of a text; `finish` says what is added
when the document ends there. -/
def readWith {σ : Type} (step : σ → Char → Move σ) (finish : σ → Option (List Char)) :
    σ → List Char → Option (List Char × List Char)
  | state, [] => (finish state).map fun added => (added, [])
  | state, c :: rest =>
    match step state c with
    | .refuse => none
    | .last added => some (added, rest)
    | .before added => some (added, c :: rest)
    | .go added next =>
      (readWith step finish next rest).map fun (text, rest) => (added ++ text, rest)

/-- The state between the quotes of a text. -/
inductive Quoting
  | plain
  /-- Behind a backslash. -/
  | escape
  /-- Within a numeric escape, with the digits that are missing and the value
  of those that were read. -/
  | code (missing : Nat) (value : Nat)
  /-- Behind a backslash and blanks, which must be the end of the line. -/
  | lineEnd
  /-- Behind such a line end, where white space is passed over. -/
  | skipping
  /-- Behind some quotes, which may or may not close the text. -/
  | quotes (count : Nat)

/-- The character of an escape with a single letter. -/
def escaped? (c : Char) : Option Char :=
  if c = '"' ∨ c = '\\' then some c
  else if c = 'b' then some (Char.ofNat 0x8)
  else if c = 'f' then some (Char.ofNat 0xC)
  else if c = 'n' then some '\n'
  else if c = 'r' then some '\r'
  else if c = 't' then some '\t'
  else none

/-- The next character of an escape. -/
def escapeStep (c : Char) : Move Quoting :=
  if c = 'u' then .go [] (.code 4 0)
  else if c = 'U' then .go [] (.code 8 0)
  else
    match escaped? c with
    | some character => .go [character] .plain
    | none => .refuse

/-- The next digit of a numeric escape.  Its value must be a character. -/
def codeStep (missing value : Nat) (c : Char) : Move Quoting :=
  match Json.hexValue? c with
  | none => .refuse
  | some digit =>
    let value := 16 * value + digit
    if 1 < missing then .go [] (.code (missing - 1) value)
    else if value.isValidChar then .go [Char.ofNat value] .plain
    else .refuse

/-- The machine of a text on one line. -/
def lineStep : Quoting → Char → Move Quoting
  | .escape, c => escapeStep c
  | .code missing value, c => codeStep missing value c
  | _, c =>
    if c = '"' then .last []
    else if c = '\\' then .go [] .escape
    else if isPlain c then .go [c] .plain
    else .refuse

/-- A character of a text over several lines that is neither part of an
escape nor a possible end, behind `count` quotes. -/
def blockPlain (count : Nat) (c : Char) : Move Quoting :=
  let held := List.replicate count '"'
  if c = '\\' then .go held .escape
  else if c = '\n' ∨ isPlain c then .go (held ++ [c]) .plain
  else .refuse

/-- The machine of a text over several lines.  Three quotes close it, and
one or two more in front of them belong to it. -/
def blockStep : Quoting → Char → Move Quoting
  | .escape, c =>
    if c = '\n' then .go [] .skipping
    else if isSpace c then .go [] .lineEnd
    else escapeStep c
  | .code missing value, c => codeStep missing value c
  | .lineEnd, c =>
    if c = '\n' then .go [] .skipping
    else if isSpace c then .go [] .lineEnd
    else .refuse
  | .skipping, c =>
    if c = '\n' ∨ isSpace c then .go [] .skipping
    else if c = '"' then .go [] (.quotes 1)
    else blockPlain 0 c
  | .quotes count, c =>
    if c = '"' then
      if count = 4 then .last ['"', '"'] else .go [] (.quotes (count + 1))
    else if 3 ≤ count then .before (List.replicate (count - 3) '"')
    else blockPlain count c
  | .plain, c => if c = '"' then .go [] (.quotes 1) else blockPlain 0 c

/-- A text over several lines may end together with the document. -/
def blockFinish : Quoting → Option (List Char)
  | .quotes count => if 3 ≤ count then some (List.replicate (count - 3) '"') else none
  | _ => none

/-- The machine of a literal text over several lines, by the number of
quotes in front. -/
def literalBlockStep (count : Nat) (c : Char) : Move Nat :=
  if c = '\'' then
    if count = 4 then .last ['\'', '\''] else .go [] (count + 1)
  else if 3 ≤ count then .before (List.replicate (count - 3) '\'')
  else if c = '\n' ∨ isPlain c then .go (List.replicate count '\'' ++ [c]) 0
  else .refuse

/-- A literal text may end together with the document. -/
def literalBlockFinish (count : Nat) : Option (List Char) :=
  if 3 ≤ count then some (List.replicate (count - 3) '\'') else none

/-- The machine of a literal text on one line. -/
def literalStep (_ : Unit) (c : Char) : Move Unit :=
  if c = '\'' then .last [] else if isPlain c then .go [c] () else .refuse

/-- Reads the inside of a text on one line and its closing quote. -/
def readLine : List Char → Option (List Char × List Char) :=
  readWith lineStep (fun _ => none) .plain

/-- Reads the inside of a literal text on one line and its closing quote. -/
def readLiteral : List Char → Option (List Char × List Char) :=
  readWith literalStep (fun _ => none) ()

/-- The text behind an opening threefold quote; a line break that follows at
once does not count. -/
def dropLineBreak : List Char → List Char
  | '\n' :: rest => rest
  | rest => rest

/-- Reads a text in any of the four notations. -/
def readText : List Char → Option (String × List Char)
  | '"' :: '"' :: '"' :: rest =>
    finish (readWith blockStep blockFinish .plain (dropLineBreak rest))
  | '"' :: rest => finish (readLine rest)
  | '\'' :: '\'' :: '\'' :: rest =>
    finish (readWith literalBlockStep literalBlockFinish 0 (dropLineBreak rest))
  | '\'' :: rest => finish (readLiteral rest)
  | _ => none
where
  finish (reading : Option (List Char × List Char)) : Option (String × List Char) :=
    reading.map fun (text, rest) => (String.ofList text, rest)

end ReservationLoad.Toml

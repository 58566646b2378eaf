import ReservationLoad.Json.Token

/-!
# Reading JSON by shape

A text is read against a shape.  A record may be an object, whose members may
stand in any order among members of other names, or a list of its members in
their fixed order.  Faults are found from left to right: a repeated member
where its name is repeated, a missing one at the end of its record.
-/

namespace ReservationLoad.Json

open Wire

/-! ## Passing over values -/

mutual

/-- Passes over any value. -/
def skipValue : Nat → List Char → Except Fault (List Char)
  | 0, _ => .error .malformed
  | fuel + 1, input =>
    match skipBlank input with
    | [] => .error .ended
    | 'n' :: rest => readWord "ull".toList rest
    | 't' :: rest => readWord "rue".toList rest
    | 'f' :: rest => readWord "alse".toList rest
    | '-' :: rest => skipNumber rest
    | '"' :: rest => skipText rest
    | '[' :: rest =>
      match skipBlank rest with
      | [] => .error .ended
      | ']' :: rest => .ok rest
      | rest => skipItems fuel rest
    | '{' :: rest =>
      match skipBlank rest with
      | [] => .error .ended
      | '}' :: rest => .ok rest
      | rest => skipMembers fuel rest
    | c :: rest => if isDigit c then skipNumber (c :: rest) else .error .malformed

/-- Passes over the items of a list and its closing bracket. -/
def skipItems : Nat → List Char → Except Fault (List Char)
  | 0, _ => .error .malformed
  | fuel + 1, input => do
    let rest ← skipValue fuel input
    match skipBlank rest with
    | ',' :: rest => skipItems fuel rest
    | ']' :: rest => pure rest
    | [] => throw .ended
    | _ => throw .malformed

/-- Passes over the members of an object and its closing brace. -/
def skipMembers : Nat → List Char → Except Fault (List Char)
  | 0, _ => .error .malformed
  | fuel + 1, input => do
    let rest ←
      match skipBlank input with
      | '"' :: rest => skipText rest
      | [] => throw .ended
      | _ => throw .malformed
    let rest ←
      match skipBlank rest with
      | ':' :: rest => pure rest
      | [] => throw .ended
      | _ => throw .malformed
    let rest ← skipValue fuel rest
    match skipBlank rest with
    | ',' :: rest => skipMembers fuel rest
    | '}' :: rest => pure rest
    | [] => throw .ended
    | _ => throw .malformed

end

/-- Passes over the value at the front of a text.  Each level of the value
takes a character of its own, so the length of the text bounds the work. -/
def skip (input : List Char) : Except Fault (List Char) :=
  skipValue (2 * input.length + 2) input

/-! ## Values of a wanted type -/

/-- Reads a value only to say that something else was wanted. -/
def unwanted (wanted : String) (input : List Char) : Fault :=
  let mismatch := fun found => Fault.misfit (.wrongType found wanted)
  let word := fun (spelling : String) (rest : List Char) (found : Found) =>
    match readWord spelling.toList rest with
    | .ok _ => mismatch found
    | .error fault => fault
  match input with
  | [] => .ended
  | 'n' :: rest => word "ull" rest .null
  | 't' :: rest => word "rue" rest (.flag true)
  | 'f' :: rest => word "alse" rest (.flag false)
  | '[' :: _ => mismatch .sequence
  | '{' :: _ => mismatch .mapping
  | '"' :: rest =>
    match readText rest with
    | .ok (text, _) => mismatch (.text (String.ofList text))
    | .error fault => fault
  | input =>
    match readNumber? input with
    | none => .malformed
    | some (.error fault) => fault
    | some (.ok (.natural value, _)) => mismatch (.whole value.toNat)
    | some (.ok (.negative value, _)) => mismatch (.whole value)
    | some (.ok (.fraction value, _)) => mismatch (.fraction value)

/-- Reads a string. -/
def readString (wanted : String) (input : List Char) : Except Fault (String × List Char) :=
  match skipBlank input with
  | '"' :: rest => do
    let (text, rest) ← readText rest
    pure (String.ofList text, rest)
  | input => .error (unwanted wanted input)

/-- Reads a number and turns it into a datum. -/
def readNumeric (wanted : String) (accept : Number → Except Mismatch Datum) (input : List Char) :
    Except Fault (Datum × List Char) :=
  let input := skipBlank input
  match readNumber? input with
  | none => .error (unwanted wanted input)
  | some reading => do
    let (number, rest) ← reading
    match accept number with
    | .ok datum => pure (datum, rest)
    | .error mismatch => throw (.misfit mismatch)

/-- Every number is a double. -/
def acceptNumber : Number → Except Mismatch Datum
  | .natural value => .ok (.number (.ofWord value))
  | .negative value => .ok (.number (Binary64.ofNat value.natAbs).negate)
  | .fraction value => .ok (.number value)

/-- An unsigned number of a given size. -/
def acceptNatural (width : Width) : Number → Except Mismatch Datum
  | .natural value =>
    if value.toNat < width.limit then .ok (.natural value)
    else .error (.wrongValue (.whole value.toNat) width.name)
  | .negative value => .error (.wrongValue (.whole value) width.name)
  | .fraction value => .error (.wrongType (.fraction value) width.name)

/-- A signed number of 64 bits. -/
def acceptInteger (wanted : String) : Number → Except Mismatch Datum
  | .natural value =>
    if value.toNat < 0x8000000000000000 then .ok (.integer (Int64.ofNat value.toNat))
    else .error (.wrongValue (.whole value.toNat) wanted)
  | .negative value => .ok (.integer (Int64.ofInt value))
  | .fraction value => .error (.wrongType (.fraction value) wanted)

/-- Reads one of the two truth values. -/
def readFlag (wanted : String) (input : List Char) : Except Fault (Datum × List Char) :=
  match skipBlank input with
  | 't' :: rest => (readWord "rue".toList rest).map fun rest => (.flag true, rest)
  | 'f' :: rest => (readWord "alse".toList rest).map fun rest => (.flag false, rest)
  | input => .error (unwanted wanted input)

/-- Reads a date. -/
def readDate (wanted : String) (input : List Char) : Except Fault (Datum × List Char) := do
  let (text, rest) ← readString wanted input
  match Calendar.Date.read text.toList with
  | .ok date => pure (.date date, rest)
  | .error fault => throw (.misfit (.badDate fault))

/-- Reads the word of a choice. -/
def readChosenWord (words : List String) (wanted : String) (input : List Char) :
    Except Fault (String × List Char) := do
  let (word, rest) ← readString wanted input
  if words.contains word then pure (word, rest)
  else throw (.misfit (.unknownWord word words))

/-- Reads the colon behind a member's name. -/
def readColon (input : List Char) : Except Fault (List Char) :=
  match skipBlank input with
  | ':' :: rest => .ok rest
  | [] => .error .ended
  | _ => .error .malformed

/-- Reads a choice: a word, or an object with the word as its only name and
null as its value. -/
def readChoice (words : List String) (wanted : String) (input : List Char) :
    Except Fault (Datum × List Char) :=
  match skipBlank input with
  | '"' :: rest => do
    let (word, rest) ← readChosenWord words wanted ('"' :: rest)
    pure (.choice word, rest)
  | '{' :: rest => do
    let (word, rest) ← readChosenWord words wanted rest
    let rest ← readColon rest
    let rest ←
      match skipBlank rest with
      | 'n' :: rest => readWord "ull".toList rest
      | rest => throw (unwanted "unit" rest)
    match skipBlank rest with
    | '}' :: rest => pure (.choice word, rest)
    | [] => throw .ended
    | _ => throw .malformed
  | [] => .error .ended
  | _ => .error .malformed

/-! ## Records -/

/-- A member of a record with the way to read its value. -/
structure MemberReader where
  name : String
  defaulted : Bool
  read : List Char → Except Fault (Datum × List Char)

/-- Reads the name of the next member, or finds the end of the object. -/
def readMemberName (first : Bool) (input : List Char) :
    Except Fault (Option (String × List Char)) :=
  let name := fun (rest : List Char) => do
    let (text, rest) ← readText rest
    pure (some (String.ofList text, rest))
  match skipBlank input with
  | [] => .error .ended
  | '}' :: _ => .ok none
  | ',' :: rest =>
    if first then .error .malformed
    else
      match skipBlank rest with
      | '"' :: rest => name rest
      | [] => .error .ended
      | _ => .error .malformed
  | '"' :: rest => if first then name rest else .error .malformed
  | _ => .error .malformed

/-- Reads the members of an object up to its closing brace. -/
def readMembers (readers : List MemberReader) :
    Nat → Bool → Slots → List Char → Except Fault (Slots × List Char)
  | 0, _, _, _ => .error .malformed
  | fuel + 1, first, slots, input => do
    match ← readMemberName first input with
    | none => pure (slots, skipBlank input)
    | some (name, rest) =>
      match placeOf? name (readers.map (·.name)) with
      | none =>
        let rest ← readColon rest
        let rest ← skip rest
        readMembers readers fuel false slots rest
      | some place =>
        if (slots[place]?.join).isSome then throw (.misfit (.duplicateMember name))
        let rest ← readColon rest
        match readers[place]? with
        | none => throw .malformed
        | some reader =>
          let (value, rest) ← reader.read rest
          readMembers readers fuel false (slots.set place (some value)) rest

/-- Is there another item in front of the closing bracket? -/
def readItemStart (first : Bool) (input : List Char) : Except Fault (Option (List Char)) :=
  match skipBlank input with
  | [] => .error .ended
  | ']' :: _ => .ok none
  | ',' :: rest =>
    if first then .ok (some (',' :: rest))
    else
      match skipBlank rest with
      | [] => .error .ended
      | ']' :: _ => .error .malformed
      | rest => .ok (some rest)
  | rest => if first then .ok (some rest) else .error .malformed

/-- Reads the members of a record from the items of a list. -/
def readItems (record : String) (size : Nat) :
    List MemberReader → Nat → List Char → Except Fault (List Datum × List Char)
  | [], _, input => .ok ([], input)
  | reader :: later, place, input => do
    match ← readItemStart (place == 0) input with
    | some start =>
      let (value, rest) ← reader.read start
      let (values, rest) ← readItems record size later (place + 1) rest
      pure (value :: values, rest)
    | none =>
      if reader.defaulted then
        let (values, rest) ← readItems record size later (place + 1) input
        pure (.absent :: values, rest)
      else throw (.misfit (.tooShort place record size))

/-- Reads a record in either notation. -/
def readRecord (record : String) (members : Members) (readers : List MemberReader)
    (input : List Char) : Except Fault (Datum × List Char) :=
  match skipBlank input with
  | '{' :: rest => do
    let (slots, rest) ←
      readMembers readers (rest.length + 1) true (readers.map fun _ => none) rest
    match completeRecord members slots with
    | .error mismatch => throw (.misfit mismatch)
    | .ok values =>
      match skipBlank rest with
      | '}' :: rest => pure (.record values, rest)
      | [] => throw .ended
      | _ => throw .malformed
  | '[' :: rest => do
    let (values, rest) ← readItems record readers.length readers 0 rest
    match skipBlank rest with
    | ']' :: rest => pure (.record values, rest)
    | [] => throw .ended
    | _ => throw .malformed
  | input => .error (unwanted ("struct " ++ record) input)

/-- Reads null as the absence of a value. -/
def readOptional (read : List Char → Except Fault (Datum × List Char)) (input : List Char) :
    Except Fault (Datum × List Char) :=
  match skipBlank input with
  | 'n' :: rest => (readWord "ull".toList rest).map fun rest => (.absent, rest)
  | input => read input

mutual

/-- Reads a value of a shape. -/
def readShape : Shape → List Char → Except Fault (Datum × List Char)
  | .text => fun input => (readString Shape.text.wanted input).map fun (s, rest) => (.text s, rest)
  | .number => readNumeric Shape.number.wanted acceptNumber
  | .natural width => readNumeric width.name (acceptNatural width)
  | .integer => readNumeric Shape.integer.wanted (acceptInteger Shape.integer.wanted)
  | .flag => readFlag Shape.flag.wanted
  | .date => readDate Shape.date.wanted
  | .choice words => readChoice words (Shape.choice words).wanted
  | .optional inner => readOptional (readShape inner)
  | .record name members => readRecord name members (memberReaders members)

/-- The readers for the members of a record. -/
def memberReaders : Members → List MemberReader
  | .nil => []
  | .cons name need shape rest =>
    ⟨name, need == .defaulted, readShape shape⟩ :: memberReaders rest

end

/-- Reads a text that holds one value of a shape and nothing else. -/
def readDatum (shape : Shape) (text : String) : Except Fault Datum := do
  let (datum, rest) ← readShape shape text.toList
  match skipBlank rest with
  | [] => pure datum
  | _ :: _ => throw .malformed

/-- Reads a document. -/
def readDocument (α : Type) [Document α] (text : String) : Except Fault α := do
  let datum ← readDatum (Document.shape α) text
  match Document.ofDatum? datum with
  | some document => pure document
  | none => throw .malformed

/-- The message of a mismatch: fractions are written as JSON writes them. -/
def mismatchMessage (mismatch : Mismatch) : String :=
  mismatch.message fun x => if x.isFinite then x.tokenText else x.plainText

end ReservationLoad.Json

import ReservationLoad.Http.Credentials
import ReservationLoad.Http.Message
import ReservationLoad.Text.Numeral
import ReservationLoad.Url.Text

/-!
# Requests and responses as texts

A request is a line that says what is asked for, lines with its fields, an
empty line and its body.  Of a response only the head counts, that is all up
to its empty line; a head whose status only says that there is more to come is
followed by another one.
-/

namespace ReservationLoad.Http

/-- The fields of a request with their values. -/
def Request.fields (request : Request) : List (String × String) :=
  (credentials? request.url).toList.map ("authorization", ·) ++
    (request.body.toList.map fun _ => ("content-type", "application/json")) ++
    [("accept", "*/*"), ("host", request.url.place)] ++
    (request.body.toList.map fun body => ("content-length", toString body.utf8ByteSize))

/-- The text of a request. -/
def Request.text (request : Request) : String :=
  request.method.word ++ " " ++ request.url.target ++ " HTTP/1.1\r\n" ++
    String.join (request.fields.map fun (name, value) => name ++ ": " ++ value ++ "\r\n") ++
    "\r\n" ++ request.body.getD ""

/-- The lines of a head that is being received, the last one first, and the
bytes of the line at hand, the last one first. -/
structure HeadReader where
  lines : List (List UInt8) := []
  line : List UInt8 := []

/-- What receiving bytes of a head leads to. -/
inductive Received
  | more (reader : HeadReader)
  /-- The lines of a whole head, and the bytes behind it. -/
  | head (lines : List (List UInt8)) (rest : List UInt8)

/-- Receives bytes.  A line ends at a line feed, with or without a carriage
return in front of it; empty lines in front of a head do not count. -/
def HeadReader.receive (reader : HeadReader) : List UInt8 → Received
  | [] => .more reader
  | byte :: rest =>
    if byte = 0x0A then
      let line := if reader.line.head? = some 0x0D then reader.line.drop 1 else reader.line
      if line.isEmpty then
        if reader.lines.isEmpty then HeadReader.receive {} rest else .head reader.lines.reverse rest
      else HeadReader.receive ⟨line.reverse :: reader.lines, []⟩ rest
    else HeadReader.receive { reader with line := byte :: reader.line } rest

/-- The greatest number of bytes that a head may have. -/
def headLimit : Nat := 400 * 1024

/-- The status of a first line of a head. -/
def readStatus? (line : List Char) : Option UInt16 :=
  let version := line.take 9
  if version = "HTTP/1.1 ".toList ∨ version = "HTTP/1.0 ".toList then
    let digits := (line.drop 9).take 3
    match digits.mapM Text.digitValue?, (line.drop 12).head? with
    | some [a, b, c], behind =>
      if 0 < a ∧ (behind = none ∨ behind = some ' ') then
        some (UInt16.ofNat (100 * a + 10 * b + c))
      else none
    | _, _ => none
  else none

/-- A character that may surround the value of a field. -/
def isFieldBlank (byte : UInt8) : Bool := byte = 0x20 || byte = 0x09

/-- The name of a field in small letters and its value. -/
def readField? (line : List UInt8) : Option (List UInt8 × List UInt8) :=
  let name := line.takeWhile (· ≠ 0x3A)
  if name.isEmpty || name.length = line.length then none
  else
    let value := (line.drop (name.length + 1)).dropWhile isFieldBlank
    let small := fun (byte : UInt8) => if 0x41 ≤ byte ∧ byte ≤ 0x5A then byte + 0x20 else byte
    some (name.map small, (value.reverse.dropWhile isFieldBlank).reverse)

/-- The response that a head stands for, if it is one. -/
def readResponse? : (lines : List (List UInt8)) → Option Response
  | [] => none
  | first :: others => do
    let status ← readStatus? (first.map fun byte => Char.ofNat byte.toNat)
    let fields ← others.mapM readField?
    let location := fields.lookup "location".toUTF8.toList
    pure ⟨status, (location.bind Url.textOf?).map String.ofList⟩

/-- Does a response only say that there is more to come? -/
def Response.isPreliminary (response : Response) : Bool :=
  100 ≤ response.status && response.status < 200 && response.status ≠ 101

/-- What receiving bytes of responses leads to: more has to come, or the
lasting response is there, or what came is not one. -/
inductive Reception
  | more (reader : HeadReader)
  | done (answer : Answer)

/-- Receives bytes up to the head of the lasting response; each preliminary
one has at least one byte. -/
def receiveUpTo : (fuel : Nat) → HeadReader → List UInt8 → Reception
  | 0, _, _ => .done .garbage
  | fuel + 1, reader, bytes =>
    match reader.receive bytes with
    | .more reader => .more reader
    | .head lines rest =>
      match readResponse? lines with
      | none => .done .garbage
      | some response =>
        if response.isPreliminary then receiveUpTo fuel {} rest else .done (.response response)

/-- Receives bytes up to the head of the lasting response. -/
def receive (reader : HeadReader) (bytes : List UInt8) : Reception :=
  receiveUpTo (bytes.length + 1) reader bytes

end ReservationLoad.Http

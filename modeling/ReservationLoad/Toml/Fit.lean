import ReservationLoad.Toml.Assembly
import ReservationLoad.Wire.Mismatch

/-!
# Tables of a wanted shape

A table fits a shape when the members it has are of the right type; keys that
the shape does not know are passed over.  A record may also be an array of
its members in order.  Members are looked at in the order in which their keys
were defined, and the first that does not fit is reported.
-/

namespace ReservationLoad.Toml

open Wire

/-- A scalar in a message.  A moment counts as a table. -/
def Scalar.found : Scalar → Found
  | .text value => .text value
  | .whole value => .whole value
  | .fraction value => .fraction value
  | .flag value => .flag value
  | .moment => .mapping

/-- A node in a message. -/
def Node.found : Node → Found
  | .scalar value => value.found
  | .array _ => .sequence
  | .inline _ => .mapping
  | .table _ _ => .mapping
  | .tables _ => .sequence

/-- The entries of a node that counts as a table.  A moment has none that a
record could know. -/
def Node.entries? : Node → Option Entries
  | .inline entries => some entries
  | .table _ entries => some entries
  | .scalar .moment => some []
  | _ => none

/-- The items of a node that counts as an array. -/
def Node.items? : Node → Option (List Node)
  | .array items => some items
  | .tables items => some (items.map .inline)
  | _ => none

/-- A text. -/
def fitText (wanted : String) : Node → Except Mismatch String
  | .scalar (.text value) => .ok value
  | node => .error (.wrongType node.found wanted)

/-- An unsigned number of a given size. -/
def fitNatural (width : Width) : Node → Except Mismatch Datum
  | .scalar (.whole value) =>
    if 0 ≤ value ∧ value < width.limit then .ok (.natural (UInt64.ofNat value.toNat))
    else .error (.wrongValue (.whole value) width.name)
  | node => .error (.wrongType node.found width.name)

/-- A signed number. -/
def fitInteger (wanted : String) : Node → Except Mismatch Datum
  | .scalar (.whole value) => .ok (.integer (Int64.ofInt value))
  | node => .error (.wrongType node.found wanted)

/-- A number of either kind. -/
def fitNumber (wanted : String) : Node → Except Mismatch Datum
  | .scalar (.fraction value) => .ok (.number value)
  | .scalar (.whole value) =>
    let size := Binary64.ofNat value.natAbs
    .ok (.number (if value < 0 then size.negate else size))
  | node => .error (.wrongType node.found wanted)

/-- A truth value. -/
def fitFlag (wanted : String) : Node → Except Mismatch Datum
  | .scalar (.flag value) => .ok (.flag value)
  | node => .error (.wrongType node.found wanted)

/-- A date, written as a text. -/
def fitDate (wanted : String) (node : Node) : Except Mismatch Datum := do
  let text ← fitText wanted node
  match Calendar.Date.read text.toList with
  | .ok date => pure (.date date)
  | .error fault => throw (.badDate fault)

/-- One of a list of words. -/
def fitChoice (words : List String) (wanted : String) (node : Node) : Except Mismatch Datum := do
  let word ← fitText wanted node
  if words.contains word then pure (.choice word) else throw (.unknownWord word words)

/-- A member of a record with the way to fit its value. -/
structure MemberFit where
  name : String
  defaulted : Bool
  fit : Node → Except Mismatch Datum

/-- Fits the entries of a table one after another. -/
def fitEntries (fits : List MemberFit) : Slots → Entries → Except Mismatch Slots
  | slots, [] => .ok slots
  | slots, (key, node) :: more =>
    match fits.findIdx? (·.name == key) with
    | none => fitEntries fits slots more
    | some place =>
      match fits[place]? with
      | none => fitEntries fits slots more
      | some member =>
        match member.fit node with
        | .error mismatch => .error mismatch
        | .ok value => fitEntries fits (slots.set place (some value)) more

/-- Fits the items of an array to the members of a record in their order.
Items beyond the last member are passed over. -/
def fitItems (record : String) (size : Nat) :
    List MemberFit → Nat → List Node → Except Mismatch (List Datum)
  | [], _, _ => .ok []
  | member :: later, place, [] =>
    if member.defaulted then
      (fitItems record size later (place + 1) []).map (.absent :: ·)
    else .error (.tooShort place record size)
  | member :: later, place, node :: nodes => do
    let value ← member.fit node
    let values ← fitItems record size later (place + 1) nodes
    pure (value :: values)

/-- Fits a record in either notation. -/
def fitRecord (record : String) (members : Members) (fits : List MemberFit) (node : Node) :
    Except Mismatch Datum :=
  match node.entries?, node.items? with
  | some entries, _ => do
    let slots ← fitEntries fits (fits.map fun _ => none) entries
    let values ← completeRecord members slots
    pure (.record values)
  | none, some items => (fitItems record fits.length fits 0 items).map .record
  | none, none => .error (.wrongType node.found ("struct " ++ record))

mutual

/-- Fits a node to a shape. -/
def fitShape : Shape → Node → Except Mismatch Datum
  | .text => fun node => (fitText Shape.text.wanted node).map .text
  | .number => fitNumber Shape.number.wanted
  | .natural width => fitNatural width
  | .integer => fitInteger Shape.integer.wanted
  | .flag => fitFlag Shape.flag.wanted
  | .date => fitDate Shape.date.wanted
  | .choice words => fitChoice words (Shape.choice words).wanted
  | .optional inner => fitShape inner
  | .record name members => fitRecord name members (memberFits members)

/-- The ways to fit the members of a record. -/
def memberFits : Members → List MemberFit
  | .nil => []
  | .cons name need shape rest =>
    ⟨name, need == .defaulted, fitShape shape⟩ :: memberFits rest

end

/-- Why a document could not be read. -/
inductive Fault
  | malformed
  | misfit (cause : Mismatch)

/-- Reads a text that holds a document of a shape. -/
def readDatum (shape : Shape) (text : String) : Except Fault Datum :=
  match Table.read text with
  | none => .error .malformed
  | some table =>
    match fitShape shape (.inline table.entries) with
    | .error mismatch => .error (.misfit mismatch)
    | .ok datum => .ok datum

/-- Reads a document. -/
def readDocument (α : Type) [Document α] (text : String) : Except Fault α := do
  let datum ← readDatum (Document.shape α) text
  match Document.ofDatum? datum with
  | some document => pure document
  | none => throw .malformed

/-- The message of a mismatch: fractions are written out in full. -/
def mismatchMessage (mismatch : Mismatch) : String := mismatch.message Binary64.plainText

end ReservationLoad.Toml

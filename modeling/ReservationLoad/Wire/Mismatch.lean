import ReservationLoad.Text.Quoted
import ReservationLoad.Wire.Shape

/-!
# Documents that do not fit

A document can be well formed and still not have the shape that is wanted.
The causes are the same in every format; only the way in which a found
fraction is written differs from format to format.
-/

namespace ReservationLoad.Wire

/-- What was found where something else was wanted. -/
inductive Found
  | null
  | flag (value : Bool)
  | whole (value : Int)
  | fraction (value : Binary64)
  | text (value : String)
  | sequence
  | mapping

/-- Why a document does not have its shape. -/
inductive Mismatch
  | wrongType (found : Found) (wanted : String)
  | wrongValue (found : Found) (wanted : String)
  | tooShort (length : Nat) (record : String) (size : Nat)
  | duplicateMember (name : String)
  | missingMember (name : String)
  | unknownWord (word : String) (known : List String)
  | badDate (fault : Calendar.Date.Fault)

namespace Found

/-- The found value in a message; fractions are written by
`fractionText`. -/
def describe (fractionText : Binary64 → String) : Found → String
  | null => "null"
  | flag value => "boolean `" ++ (if value then "true" else "false") ++ "`"
  | whole value => "integer `" ++ toString value ++ "`"
  | fraction value => "floating point `" ++ fractionText value ++ "`"
  | text value => "string " ++ Text.quoted value
  | sequence => "sequence"
  | mapping => "map"

end Found

namespace Mismatch

/-- A list of words to choose from. -/
def alternatives : List String → String
  | [] => "there are no variants"
  | [word] => "expected `" ++ word ++ "`"
  | [first, second] => "expected `" ++ first ++ "` or `" ++ second ++ "`"
  | words => "expected one of " ++ String.intercalate ", " (words.map fun w => "`" ++ w ++ "`")

/-- The text of a mismatch. -/
def message (fractionText : Binary64 → String) : Mismatch → String
  | wrongType found wanted =>
    "invalid type: " ++ found.describe fractionText ++ ", expected " ++ wanted
  | wrongValue found wanted =>
    "invalid value: " ++ found.describe fractionText ++ ", expected " ++ wanted
  | tooShort length record size =>
    "invalid length " ++ toString length ++ ", expected struct " ++ record ++ " with " ++
      toString size ++ (if size = 1 then " element" else " elements")
  | duplicateMember name => "duplicate field `" ++ name ++ "`"
  | missingMember name => "missing field `" ++ name ++ "`"
  | unknownWord word known => "unknown variant `" ++ word ++ "`, " ++ alternatives known
  | badDate fault => fault.message

end Mismatch

/-! ## Filling a record -/

/-- The place of a member among the names. -/
def placeOf? (name : String) (names : List String) : Option Nat :=
  names.findIdx? (· == name)

/-- The values of a record from the slots that were filled; a member that
must not be missing is reported. -/
def completeRecord : Members → Slots → Except Mismatch (List Datum)
  | .nil, _ => .ok []
  | .cons name need shape rest, slots =>
    match slots with
    | some value :: later => (completeRecord rest later).map (value :: ·)
    | none :: later =>
      if shape.mayBeMissing need then (completeRecord rest later).map (.absent :: ·)
      else .error (.missingMember name)
    | [] =>
      if shape.mayBeMissing need then (completeRecord rest []).map (.absent :: ·)
      else .error (.missingMember name)

end ReservationLoad.Wire

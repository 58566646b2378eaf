import ReservationLoad.Binary64.Basic
import ReservationLoad.Calendar.Date

/-!
# Shapes of documents

Every document that is read or written has a fixed shape: a record of named
members, each with a shape of its own.  A shape says which texts a document
may have, and a `Datum` is what is left of a document once its layout is
forgotten: the values of the members in their fixed order.
-/

namespace ReservationLoad.Wire

/-- The sizes of unsigned numbers. -/
inductive Width
  | word32
  | word64
  | count
deriving DecidableEq

namespace Width

/-- The word by which messages call a number of this size. -/
def name : Width → String
  | word32 => "u32"
  | word64 => "u64"
  | count => "usize"

/-- The first number that is too large. -/
def limit : Width → Nat
  | word32 => UInt32.size
  | word64 => UInt64.size
  | count => UInt64.size

end Width

/-- What happens when a record lacks a member. -/
inductive Need
  /-- The member has to be there. -/
  | required
  /-- The member is filled in afterwards. -/
  | defaulted
deriving DecidableEq

mutual

/-- The shape of a value. -/
inductive Shape
  | text
  | number
  | natural (width : Width)
  | integer
  | flag
  | date
  | choice (words : List String)
  /-- A value or the absence of one. -/
  | optional (inner : Shape)
  | record (name : String) (members : Members)

/-- The members of a record, in order. -/
inductive Members
  | nil
  | cons (name : String) (need : Need) (shape : Shape) (rest : Members)

end

namespace Members

/-- A list of members. -/
def ofList : List (String × Need × Shape) → Members
  | [] => nil
  | (name, need, shape) :: rest => cons name need shape (ofList rest)

/-- The names of the members. -/
def names : Members → List String
  | nil => []
  | cons name _ _ rest => name :: rest.names

end Members

namespace Shape

/-- How a message says what was wanted. -/
def wanted : Shape → String
  | text => "a string"
  | number => "f64"
  | natural width => width.name
  | integer => "i64"
  | flag => "a boolean"
  | date => "a formatted date string"
  | choice _ => "variant identifier"
  | optional inner => inner.wanted
  | record name _ => "struct " ++ name

/-- A record's member may stay away when it is filled in afterwards or may
be absent anyway. -/
def mayBeMissing (need : Need) : Shape → Bool
  | optional _ => true
  | _ => need == .defaulted

end Shape

/-- A value without its layout. -/
inductive Datum
  | absent
  | text (value : String)
  | number (value : Binary64)
  | natural (value : UInt64)
  | integer (value : Int64)
  | flag (value : Bool)
  | date (value : Calendar.Date)
  | choice (word : String)
  | record (values : List Datum)

namespace Datum

def text? : Datum → Option String
  | text value => some value
  | _ => none

def number? : Datum → Option Binary64
  | number value => some value
  | _ => none

def natural? : Datum → Option UInt64
  | natural value => some value
  | _ => none

def integer? : Datum → Option Int64
  | integer value => some value
  | _ => none

def flag? : Datum → Option Bool
  | flag value => some value
  | _ => none

def date? : Datum → Option Calendar.Date
  | date value => some value
  | _ => none

def choice? : Datum → Option String
  | choice word => some word
  | _ => none

/-- Reads a value that may be absent. -/
def optional? {α : Type} (read : Datum → Option α) : Datum → Option (Option α)
  | absent => some none
  | value => (read value).map some

/-- The datum of a value that may be absent. -/
def ofOption {α : Type} (write : α → Datum) : Option α → Datum
  | none => absent
  | some value => write value

end Datum

/-- The values found for the members of a record so far. -/
abbrev Slots := List (Option Datum)

/-- A type whose values are documents of one shape. -/
class Document (α : Type) where
  shape : Shape
  toDatum : α → Datum
  ofDatum? : Datum → Option α

end ReservationLoad.Wire

import ReservationLoad.Domain.Basic
import ReservationLoad.Json.Token

/-!
# Numeric addresses

A host whose last label is a number is an address of the fourth version of
the internet protocol, whatever its other labels are.  Its labels are numbers
in decimal, octal or hexadecimal notation, and the last one fills all the
bytes that the others leave.  Addresses of the sixth version stand in
brackets.
-/

namespace ReservationLoad.Url

open Domain (labels)

/-- The digits of a number in a base, or nothing if another character is
among them. -/
def valueIn? (base : Nat) (digits : List Char) : Option Nat :=
  digits.foldlM (fun value c =>
    match (Json.hexValue? c).filter (· < base) with
    | some digit => some (base * value + digit)
    | none => none) 0

/-- The number that a label stands for.  A zero in front makes it octal, and
`0x` makes it hexadecimal. -/
def labelNumber? : List Char → Option Nat
  | [] => none
  | '0' :: 'x' :: digits => valueIn? 16 digits
  | '0' :: 'X' :: digits => valueIn? 16 digits
  | '0' :: digits => valueIn? 8 digits
  | digits => valueIn? 10 digits

/-- The last label of a name; a point at the very end does not count. -/
def lastLabel? (name : List Char) : Option (List Char) :=
  match (labels name).reverse with
  | [] => none
  | [] :: before => before.head?
  | last :: _ => some last

/-- Is the last label of a name a number? -/
def endsInNumber (name : List Char) : Bool :=
  match lastLabel? name with
  | none => false
  | some last =>
    (!last.isEmpty && last.all Char.isDigit) || (labelNumber? last).isSome

/-- The labels of a numeric address. -/
def addressLabels (name : List Char) : List (List Char) :=
  match (labels name).reverse with
  | [] :: before => before.reverse
  | all => all.reverse

/-- Reads an address of the fourth version. -/
def readShortAddress? (name : List Char) : Option Nat :=
  let parts := addressLabels name
  if 4 < parts.length then none
  else
    match parts.mapM labelNumber? with
    | none => none
    | some numbers =>
      match numbers.reverse with
      | [] => none
      | last :: before =>
        if Nat.pow 256 (4 - before.length) ≤ last || before.any (255 < ·) then none
        else
          some (before.reverse.foldl (fun value n => 256 * value + n) 0 *
            Nat.pow 256 (4 - before.length) + last)

/-- Reads a byte in decimal notation, without zeros in front. -/
def readByte? (input : List Char) : Option (Nat × List Char) :=
  let digits := (input.take 4).takeWhile Char.isDigit
  match digits, valueIn? 10 digits with
  | [], _ => none
  | '0' :: _ :: _, _ => none
  | _, some value => if value ≤ 255 then some (value, input.drop digits.length) else none
  | _, none => none

/-- Reads bytes between points up to the end of the text. -/
def readBytes? : (count : Nat) → List Char → Option (List Nat)
  | 0, _ => none
  | count + 1, input =>
    match readByte? input with
    | none => none
    | some (byte, []) => if count = 0 then some [byte] else none
    | some (byte, '.' :: rest) => (readBytes? count rest).map (byte :: ·)
    | some _ => none

/-- The pieces of a long address, in front of its gap and behind it; without
a gap all of them are behind. -/
structure Pieces where
  front : Option (List Nat) := none
  back : List Nat := []

/-- Reads the pieces of a long address with room for `room` more of them; a
gap takes the room of one. -/
def readPieces? : (room : Nat) → Pieces → List Char → Option Pieces
  | _, pieces, [] => some pieces
  | 0, _, _ :: _ => none
  | room + 1, pieces, ':' :: rest =>
    if pieces.front.isSome then none else readPieces? room ⟨some pieces.back, []⟩ rest
  | room + 1, pieces, input =>
    let digits := (input.take 4).takeWhile fun c => (Json.hexValue? c).isSome
    let piece := (valueIn? 16 digits).getD 0
    let more := { pieces with back := pieces.back ++ [piece] }
    match input.drop digits.length with
    | [] => some more
    | ':' :: [] => none
    | ':' :: rest => readPieces? room more rest
    | '.' :: _ =>
      if digits.isEmpty || room = 0 then none
      else
        match readBytes? 4 input with
        | some [a, b, c, d] =>
          some { pieces with back := pieces.back ++ [256 * a + b, 256 * c + d] }
        | _ => none
    | _ => none

/-- Reads an address of the sixth version, without its brackets. -/
def readLongAddress? (input : List Char) : Option (List Nat) :=
  let pieces? :=
    match input with
    | ':' :: ':' :: rest => readPieces? 7 ⟨some [], []⟩ rest
    | ':' :: _ => none
    | [_] => none
    | [] => none
    | input => readPieces? 8 {} input
  match pieces? with
  | none => none
  | some ⟨none, all⟩ => if all.length = 8 then some all else none
  | some ⟨some front, back⟩ =>
    some (front ++ List.replicate (8 - front.length - back.length) 0 ++ back)

end ReservationLoad.Url

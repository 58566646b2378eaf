/-!
# Punycode

A label with characters beyond ASCII can be written in ASCII: first its ASCII
characters, then a hyphen, then one number for every other character.  The
number says how far to go in a walk over all code points and all places in
the label.  Numbers are written in base 36 with digits whose weight adapts to
the numbers before.
-/

namespace ReservationLoad.Domain.Punycode

/-- The value of a digit: the letters come first. -/
def digitValue? (c : Char) : Option Nat :=
  if 'a' ≤ c ∧ c ≤ 'z' then some (c.toNat - 'a'.toNat)
  else if 'A' ≤ c ∧ c ≤ 'Z' then some (c.toNat - 'A'.toNat)
  else if '0' ≤ c ∧ c ≤ '9' then some (c.toNat - '0'.toNat + 26)
  else none

/-- Digits below the threshold end a number. -/
def threshold (place bias : Nat) : Nat := max 1 (min 26 (place - bias))

/-- Brings a distance into the range that a bias is made of. -/
def reduce (distance place : Nat) : Nat × Nat :=
  if 455 < distance then reduce (distance / 35) (place + 36) else (distance, place)
termination_by distance
decreasing_by omega

/-- The bias for the next number, after a distance that led to the given
number of characters. -/
def adapt (first : Bool) (distance characters : Nat) : Nat :=
  let halved := if first then distance / 700 else distance / 2
  let (reduced, place) := reduce (halved + halved / characters) 0
  place + 36 * reduced / (reduced + 38)

/-- The state of the walk between two numbers. -/
structure Walk where
  label : List Char
  code : Nat := 128
  position : Nat := 0
  bias : Nat := 72

/-- A number that is being read: its value so far, and the weight and the
place of its next digit. -/
structure Distance where
  value : Nat := 0
  weight : Nat := 1
  place : Nat := 36

/-- Takes a walk over a distance and puts the character that it leads to in
its position. -/
def Walk.advance (walk : Walk) (distance : Nat) : Option Walk :=
  let size := walk.label.length + 1
  let reached := walk.position + distance
  let code := walk.code + reached / size
  let position := reached % size
  if code.isValidChar then
    some
      { label := walk.label.take position ++ Char.ofNat code :: walk.label.drop position
        code := code
        position := position + 1
        bias := adapt (walk.code = 128 && walk.position = 0) distance size }
  else none

/-- Reads the numbers behind the ASCII characters. -/
def walkFrom (walk : Walk) (distance : Distance) : List Char → Option (List Char)
  | [] => if distance.place = 36 then some walk.label else none
  | c :: rest =>
    match digitValue? c with
    | none => none
    | some digit =>
      let value := distance.value + digit * distance.weight
      let threshold := threshold distance.place walk.bias
      if digit < threshold then
        match walk.advance value with
        | none => none
        | some walk => walkFrom walk {} rest
      else
        walkFrom walk ⟨value, distance.weight * (36 - threshold), distance.place + 36⟩ rest

/-- The text in front of the last hyphen, and the text behind it. -/
def splitLastHyphen (text : List Char) : List Char × List Char :=
  let tail := (text.reverse.takeWhile (· ≠ '-')).reverse
  let front := text.take (text.length - tail.length - 1)
  if front.isEmpty then ([], text) else (front, tail)

/-- The label that a text in ASCII stands for. -/
def decode (text : List Char) : Option (List Char) :=
  let (ascii, numbers) := splitLastHyphen text
  if ascii.all fun c => c.toNat < 0x80 then walkFrom { label := ascii } {} numbers else none

/-! ## Writing -/

/-- The digit of a value. -/
def digit (value : Nat) : Char :=
  if value < 26 then Char.ofNat ('a'.toNat + value) else Char.ofNat ('0'.toNat + value - 26)

theorem threshold_pos (place bias : Nat) : 0 < threshold place bias := by
  unfold threshold
  omega

/-- The digits of a number from the digit at a place on. -/
def digitsFrom (bias place value : Nat) : List Char :=
  if value < threshold place bias then [digit value]
  else
    let above := value - threshold place bias
    let base := 36 - threshold place bias
    digit (threshold place bias + above % base) ::
      digitsFrom bias (place + 36) (above / base)
termination_by value
decreasing_by
  have := threshold_pos place bias
  have := Nat.div_le_self (value - threshold place bias) (36 - threshold place bias)
  omega

/-- How far a walk has to go to reach a code point and a position. -/
def Walk.distanceTo (walk : Walk) (code position : Nat) : Nat :=
  (code - walk.code) * (walk.label.length + 1) + position - walk.position

/-- The numbers that lead a walk to code points and positions, one after
another. -/
def numbersFrom (walk : Walk) : List (Nat × Nat) → List Char
  | [] => []
  | (code, position) :: later =>
    let distance := walk.distanceTo code position
    match walk.advance distance with
    | none => []
    | some next => digitsFrom walk.bias 36 distance ++ numbersFrom next later

/-- The characters beyond ASCII, each with the position that it has among
the characters that are put before it. -/
def positions (before : List Char) : List Char → List (Nat × Nat)
  | [] => []
  | c :: rest =>
    let more := positions (c :: before) rest
    if c.toNat < 0x80 then more else (c.toNat, before.countP (· ≤ c)) :: more

/-- The ASCII form of a label with characters beyond ASCII. -/
def encode (label : List Char) : List Char :=
  let ascii := label.filter fun c => c.toNat < 0x80
  let places := (positions [] label).mergeSort fun a b => a.1 ≤ b.1
  ascii ++ (if ascii.isEmpty then [] else ['-']) ++ numbersFrom { label := ascii } places

end ReservationLoad.Domain.Punycode

import ReservationLoad.Domain.Direction
import ReservationLoad.Domain.Joining
import ReservationLoad.Domain.Normal
import ReservationLoad.Domain.Punycode

/-!
# Host names

A host name is read in four steps.  Its characters are replaced by what they
stand for and brought into their normal form, ASCII characters with a meaning in
a URL are refused, every label is checked, and if any label runs from right to
left then all of them have to keep to one direction.

A label that starts with `xn--` is the ASCII form of another label and is
checked in that other form.
-/

namespace ReservationLoad.Domain

/-- ASCII characters that a host name may not hold: control characters, the
space, and those with a meaning of their own in a URL. -/
def isForbidden (c : Char) : Bool :=
  c.toNat ≤ 0x20 || c.toNat = 0x7F || "%#/:<>?@[\\]^|".toList.contains c

/-- The labels of a name: what stands between its points. -/
def labels : List Char → List (List Char)
  | [] => [[]]
  | c :: rest =>
    if c = '.' then [] :: labels rest
    else
      match labels rest with
      | [] => [[c]]
      | label :: more => (c :: label) :: more

/-- Is every character of a text in ASCII? -/
def isAscii (text : List Char) : Bool := text.all fun c => c.toNat < 0x80

/-- The greatest length of a label with characters beyond ASCII. -/
def labelLimit : Nat := 1000

/-- The greatest length of the ASCII form of such a label. -/
def encodedLimit : Nat := 2000

/-- Does a label beyond ASCII start with a letter or a symbol, and are its
joiners in place? -/
def isWellFormed (label : List Char) : Bool :=
  !label.head?.any markFirst.contains && joinersFit [] label

/-- The label that an ASCII form stands for: it may not be all ASCII itself,
and it has to be in its final form. -/
def decodeLabel? (encoded : List Char) : Option (List Char) :=
  if encodedLimit < encoded.length then none
  else
    match Punycode.decode encoded with
    | none => none
    | some label =>
      let settled := label.all isSettled && normalForm label = label
      if !isAscii label && settled && isWellFormed label then some label else none

/-- The form in which a label is checked; nothing if it is not a label. -/
def checkedLabel? (label : List Char) : Option (List Char) :=
  if "xn--".toList.isPrefixOf label then decodeLabel? (label.drop 4)
  else if isAscii label then some label
  else if label.length ≤ labelLimit && isWellFormed label then some label
  else none

/-- Reads a host name.  The result is the normal form of the name with every
character replaced by what it stands for. -/
def read? (text : List Char) : Option (List Char) :=
  if text.any fun c => 0x80 ≤ c.toNat && disallowed.contains c then none
  else
    let folded := normalForm (text.flatMap fold)
    if folded.any isForbidden then none
    else
      match (labels folded).mapM checkedLabel? with
      | none => none
      | some checked =>
        if checked.any (·.any turns) && !checked.all keepsDirection then none else some folded

/-- The ASCII form of a name. -/
def asciiForm (name : List Char) : List Char :=
  ['.'].intercalate ((labels name).map fun label =>
    if isAscii label then label else "xn--".toList ++ Punycode.encode label)

end ReservationLoad.Domain

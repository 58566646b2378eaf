import ReservationLoad.Text.CodeRanges

/-!
# White space

The white space that may surround a numeric setting is that of the Unicode
property `White_Space`.
-/

namespace ReservationLoad.Text

/-- The code points of Unicode white space. -/
def whiteSpace : CodeRanges :=
  ⟨[0x9, 0xE, 0x20, 0x21, 0x85, 0x86, 0xA0, 0xA1, 0x1680, 0x1681, 0x2000, 0x200B,
    0x2028, 0x202A, 0x202F, 0x2030, 0x205F, 0x2060, 0x3000, 0x3001]⟩

/-- Unicode white space. -/
def isBlank (c : Char) : Bool := whiteSpace.contains c

/-- A text without the white space at its two ends. -/
def trimBlank (text : List Char) : List Char :=
  ((text.dropWhile isBlank).reverse.dropWhile isBlank).reverse

end ReservationLoad.Text

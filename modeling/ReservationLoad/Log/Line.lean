import ReservationLoad.Calendar.Instant
import ReservationLoad.Log.Event

/-!
# Lines of the log

An event is one line: its level, the part of the program it comes from, its
message, and its fields.
-/

namespace ReservationLoad

/-- The text of a measured figure: positional between `10 ^ -4` and
`10 ^ 16`, with an exponent beyond. -/
def Binary64.measureText (x : Binary64) : String :=
  if x.isNaN then "NaN"
  else if x.isInfinite then String.ofList (x.signText ++ "inf".toList)
  else
    let d := x.shortest
    let exponent : Int := (Decimal.ofNat d.digits).length + d.exponent - 1
    let body :=
      if d.digits = 0 ∨ (-4 ≤ exponent ∧ exponent < 16) then d.positional
      else d.scientific.filter (· ≠ '+')
    String.ofList (x.signText ++ body)

namespace Log

/-- The text of a field's value. -/
def Field.text : Field → String
  | count value => toString value
  | measure value => value.measureText
  | words value => value

/-- The line of an event, in which measured figures are written by
`measureText`. -/
def Event.lineWith (measureText : Binary64 → String) (event : Event) : String :=
  let value := fun (field : Field) =>
    match field with
    | .measure figure => measureText figure
    | field => field.text
  String.join
    ([event.level.word, " ", event.source, ": ", event.message] ++
      event.fields.map fun (name, field) => " " ++ name ++ "=" ++ value field)

/-- The line of an event. -/
def Event.line (event : Event) : String := event.lineWith Binary64.measureText

/-! ## Lines for a terminal -/

/-- The styles that set the parts of a line off, by their codes. -/
inductive Style
  | dim
  | italic
  | colour (code : Nat)

/-- The code of a style. -/
def Style.code : Style → Nat
  | dim => 2
  | italic => 3
  | colour code => code

/-- The colour of a level. -/
def Level.style : Level → Style
  | error => .colour 31
  | warn => .colour 33
  | info => .colour 32
  | debug => .colour 34
  | trace => .colour 35

/-- A text in a style, where styles are wanted. -/
def paint (styled : Bool) (style : Style) (text : String) : String :=
  if styled then "\x1b[" ++ toString style.code ++ "m" ++ text ++ "\x1b[0m" else text

/-- The word of a level, with blanks in front up to the width of the
longest. -/
def Level.column (level : Level) : String :=
  "".pushn ' ' (5 - level.word.length) ++ level.word

/-- The line of an event with the time at which it is written. -/
def Event.stamped (styled : Bool) (now : Calendar.Instant) (event : Event) : String :=
  String.join
    ([paint styled .dim now.logStamp, " ", paint styled event.level.style event.level.column, " ",
        paint styled .dim event.source, paint styled .dim ":", " ", event.message] ++
      event.fields.map fun (name, field) =>
        " " ++ paint styled .italic name ++ paint styled .dim "=" ++ field.text)

end Log

end ReservationLoad

import ReservationLoad.Log.Event
import ReservationLoad.Text.Blank
import ReservationLoad.Text.Numeral

/-!
# Filters of the log

A filter is a list of directives between commas.  A directive is a level, a
source, or a source with its level; a source stands for all those that start
with it.  Names in brackets restrict a directive to events that have these
fields, or to an activity, of which this program has none.

For an event the most specific directive decides, and of two equal ones the
later.
-/

namespace ReservationLoad.Log

/-- The least important level that passes; nothing passes without one. -/
abbrev Threshold := Option Level

/-- Does a level pass? -/
def Threshold.passes (threshold : Threshold) (level : Level) : Bool :=
  match threshold with
  | none => false
  | some least => level.rank ≤ least.rank

/-- The level of a word or a digit, in capital or small letters. -/
def readThreshold? (text : List Char) : Option Threshold :=
  match Text.readUnsigned UInt64.size text with
  | .ok number =>
    match number with
    | 0 => some none
    | 1 => some (some .error)
    | 2 => some (some .warn)
    | 3 => some (some .info)
    | 4 => some (some .debug)
    | 5 => some (some .trace)
    | _ => none
  | .error _ =>
    match String.ofList (text.map Char.toLower) with
    | "" => some (some .error)
    | "error" => some (some .error)
    | "warn" => some (some .warn)
    | "info" => some (some .info)
    | "debug" => some (some .debug)
    | "trace" => some (some .trace)
    | "off" => some none
    | _ => none

/-- One directive. -/
structure Directive where
  /-- What the sources that it is about start with. -/
  source : Option String := none
  /-- The activity that it is about. -/
  activity : Option String := none
  /-- The fields that an event must have, with whether a value is asked
  for. -/
  fields : List (String × Bool) := []
  threshold : Threshold := some .trace

namespace Directive

/-- Is the directive about events as such, and not about their circumstances
or the values of their fields? -/
def isPlain (d : Directive) : Bool := d.activity.isNone && !d.fields.any (·.2)

/-- Does the directive depend on more than source and level? -/
def isConditional (d : Directive) : Bool := d.activity.isSome || !d.fields.isEmpty

/-- The names of the fields that an event must have. -/
def fieldNames (d : Directive) : List String := d.fields.map (·.1)

/-- Is the directive about an event? -/
def covers (d : Directive) (event : Event) : Bool :=
  (d.source.all fun source => event.source.startsWith source) &&
    d.fieldNames.all fun name => name = "message" || event.fields.any (·.1 = name)

/-- A directive is the more specific, the longer its source is, and then the
more fields it names. -/
def specificity (d : Directive) : Nat × Nat :=
  (match d.source with
    | none => 0
    | some source => source.utf8ByteSize + 1, d.fields.length)

/-- Is one directive more specific than another?  Where they differ only in
names, the later in the order of texts counts as the more specific. -/
def precedes (d e : Directive) : Bool :=
  if d.specificity ≠ e.specificity then
    let (a, b) := d.specificity
    let (a', b') := e.specificity
    a' < a || (a = a' && b' < b)
  else if d.source ≠ e.source then e.source.getD "" < d.source.getD ""
  else e.fieldNames < d.fieldNames

/-- Are two directives about the same events? -/
def sameScope (d e : Directive) : Bool := d.source = e.source && d.fieldNames = e.fieldNames

/-- A directive without brackets: a level or a source. -/
def ofWord (word : List Char) : Directive :=
  match readThreshold? word with
  | some threshold => { threshold }
  | none => { source := some (String.ofList word) }

/-- Reads the level behind a source. -/
def withThreshold? (d : Directive) (text : List Char) : Option Directive :=
  if text.isEmpty then some d
  else (readThreshold? text).map fun threshold => { d with threshold }

/-- Reads what follows the closing bracket. -/
def readBehindBracket? (d : Directive) : List Char → Option Directive
  | [] => some d
  | '=' :: text => d.withThreshold? text
  | _ => none

/-- A field that is asked for, possibly with a value. -/
def fieldOf (text : List Char) : String × Bool :=
  (String.ofList (text.takeWhile (· ≠ '=')), text.contains '=')

/-- Reads what stands in brackets, and what follows them. -/
def readBracket? (d : Directive) (text : List Char) : Option Directive :=
  let inside := text.takeWhile fun c => c ≠ ']' && c ≠ '\x7b'
  match text.drop inside.length with
  | ']' :: rest => { d with activity := some (String.ofList inside) }.readBehindBracket? rest
  | _ :: rest =>
    let field := rest.takeWhile (· ≠ '\x7d')
    match rest.drop field.length with
    | _ :: ']' :: rest =>
      if field.isEmpty then none
      else
        let activity := if inside.isEmpty then none else some (String.ofList inside)
        { d with activity, fields := [fieldOf field] }.readBehindBracket? rest
    | _ => none
  | [] => none

/-- A character that a source may start with. -/
def startsWord (c : Char) : Bool :=
  c.isAlphanum || 0x80 ≤ c.toNat || c = '-' || c = ':' || c = '_'

/-- Reads a directive. -/
def read? (text : List Char) : Option Directive :=
  match Text.trimBlank text with
  | [] => none
  | '[' :: rest => readBracket? {} rest
  | c :: rest =>
    if !startsWord c then none
    else
      let word := (c :: rest).takeWhile fun c => c ≠ '=' && c ≠ '['
      let source : Directive := { source := some (String.ofList word) }
      match (c :: rest).drop word.length with
      | [] => some (ofWord word)
      | '=' :: text => source.withThreshold? text
      | _ :: text => source.readBracket? text

end Directive

/-- A filter: its plain directives, the most specific first. -/
structure Filter where
  directives : List Directive

namespace Filter

/-- Puts a directive to its place; an equal one is replaced. -/
def insert (d : Directive) : List Directive → List Directive
  | [] => [d]
  | e :: more =>
    if d.sameScope e then d :: more
    else if d.precedes e then d :: e :: more
    else e :: insert d more

/-- The filter of directives.  Without any, errors pass. -/
def ofDirectives (list : List Directive) : Filter :=
  if list.isEmpty then ⟨[{ threshold := some .error }]⟩
  else
    let plain := list.filter (!·.isConditional) ++
      list.filter fun d => d.isConditional && d.isPlain
    ⟨plain.foldl (fun directives d => insert d directives) []⟩

/-- The filter that is used where none is given or the given one cannot be
read. -/
def default : Filter := ⟨[{ threshold := some .info }]⟩

/-- The parts of a text between commas, without the empty ones. -/
def parts : List Char → List (List Char)
  | [] => []
  | c :: rest =>
    if c = ',' then [] :: parts rest
    else
      match parts rest with
      | [] => [[c]]
      | part :: more => (c :: part) :: more

/-- Reads a filter. -/
def read? (text : String) : Option Filter :=
  (((parts text.toList).filter (· ≠ [])).mapM Directive.read?).map ofDirectives

/-- The filter that an environment asks for. -/
def ofSetting (setting : Option String) : Filter :=
  match setting.bind read? with
  | some filter => filter
  | none => default

/-- Does an event pass? -/
def passes (filter : Filter) (event : Event) : Bool :=
  match filter.directives.find? (·.covers event) with
  | none => false
  | some d => d.threshold.passes event.level

end Filter

end ReservationLoad.Log

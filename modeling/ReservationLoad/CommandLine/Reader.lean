import ReservationLoad.CommandLine.Basic

/-!
# Reading arguments

Arguments are read from left to right.  The value of an option stands behind
an equals sign or is the next argument, unless that starts with a hyphen.  A
value is looked at no sooner than when the next option begins or the
arguments end, so that an argument that nobody knows is reported before a bad
value in front of it.
-/

namespace ReservationLoad.CommandLine

/-- Reads a number of 64 bits. -/
def readWord (setting : Setting) (value : String) : Except Fault UInt64 :=
  match Text.readWord value.toList with
  | .ok number => .ok number
  | .error cause => .error (.badNumber setting value cause)

/-- Reads a status of 16 bits.  It is read as a signed number first, so that
a negative number is out of range and no bad number. -/
def readStatus (setting : Setting) (value : String) : Except Fault UInt16 :=
  match Text.readSigned 0x7FFFFFFFFFFFFFFF value.toList with
  | .error cause => .error (.badNumber setting value cause)
  | .ok number =>
    if 0 ≤ number ∧ number < UInt16.size then .ok (UInt16.ofNat number.toNat)
    else .error (.outOfRange setting value)

/-- Reads a path, which may not be empty. -/
def readPath (setting : Setting) (value : String) : Except Fault String :=
  if value.isEmpty then .error (.emptyValue setting) else .ok value

/-- Reads a mode. -/
def readMode (value : String) : Except Fault Mode :=
  match Mode.ofWord? value with
  | some mode => .ok mode
  | none => .error (.unknownMode value)

/-- Gives a setting its value. -/
def Arguments.assign (arguments : Arguments) (setting : Setting) (value : String) :
    Except Fault Arguments :=
  match setting with
  | .config => (readPath setting value).map fun path => { arguments with config := some path }
  | .mode => (readMode value).map fun mode => { arguments with mode }
  | .workers => (readWord setting value).map fun n => { arguments with workers := some n }
  | .totalRequests =>
    (readWord setting value).map fun n => { arguments with totalRequests := some n }
  | .timeoutMs => (readWord setting value).map fun n => { arguments with timeoutMs := some n }
  | .url => .ok { arguments with url := some value }
  | .seed => (readWord setting value).map fun n => { arguments with seed := some n }
  | .logEvery => (readWord setting value).map fun n => { arguments with logEvery := some n }
  | .mockStatus => (readStatus setting value).map fun n => { arguments with mockStatus := n }
  | .mockDelayMs => (readWord setting value).map fun n => { arguments with mockDelayMs := n }
  | .resultsDir => (readPath setting value).map fun path => { arguments with resultsDir := path }

/-- An option whose value has not been looked at yet. -/
structure Pending where
  setting : Setting
  value : Option String

/-- What has been read so far. -/
structure Reading where
  arguments : Arguments := {}
  /-- The options that were given. -/
  given : List Setting := []
  pending : Option Pending := none
  /-- Have two hyphens ended the options? -/
  closed : Bool := false

namespace Reading

/-- Gives an option its value, for the first and only time. -/
def accept (r : Reading) (setting : Setting) (value : String) : Except Fault Reading :=
  if r.given.contains setting then .error (.repeatedSetting setting)
  else
    (r.arguments.assign setting value).map fun arguments =>
      { r with arguments, given := setting :: r.given }

/-- Looks at the value that is pending. -/
def settle (r : Reading) : Except Fault Reading :=
  match r.pending with
  | none => .ok r
  | some ⟨setting, none⟩ => .error (.missingValue setting)
  | some ⟨setting, some value⟩ => { r with pending := none }.accept setting value

/-- Turns a switch on. -/
def turnOn (r : Reading) : Switch → Except Fault Reading
  | .help => .error .helpWanted
  | .noExport =>
    if r.arguments.noExport then .error (.repeatedSwitch .noExport)
    else .ok { r with arguments := { r.arguments with noExport := true } }

/-- Takes an option, behind its hyphens. -/
def takeOption (r : Reading) (argument : String) (text : List Char) : Except Fault Reading :=
  let name := String.ofList (text.takeWhile (· ≠ '='))
  let attached :=
    match text.dropWhile (· ≠ '=') with
    | [] => none
    | _ :: value => some (String.ofList value)
  match Setting.ofName? name, Switch.ofName? name, attached with
  | some setting, _, some value => do (← r.settle).accept setting value
  | some setting, _, none => do pure { ← r.settle with pending := some ⟨setting, none⟩ }
  | none, some switch, some _ => .error (.needlessValue switch)
  | none, some switch, none => do (← r.settle).turnOn switch
  | none, none, _ => .error (.unknownArgument argument)

/-- Takes an argument that is no option: the value of the option in front of
it. -/
def takePlain (r : Reading) (argument : String) : Except Fault Reading :=
  match r.pending with
  | some ⟨setting, none⟩ => .ok { r with pending := some ⟨setting, some argument⟩ }
  | _ => .error (.unknownArgument argument)

/-- Takes the next argument. -/
def take (r : Reading) (argument : String) : Except Fault Reading :=
  if r.closed then .error (.unknownArgument argument)
  else
    match argument.toList with
    | ['-', '-'] => .ok { r with closed := true }
    | '-' :: '-' :: text => r.takeOption argument text
    | ['-'] => r.takePlain argument
    | '-' :: 'h' :: _ => do (← r.settle).turnOn .help
    | '-' :: _ => .error (.unknownArgument argument)
    | _ => r.takePlain argument

end Reading

/-- Reads all arguments. -/
def read (arguments : List String) : Except Fault Arguments := do
  let reading ← arguments.foldlM Reading.take {}
  pure (← reading.settle).arguments

end ReservationLoad.CommandLine

import ReservationLoad.Mode
import ReservationLoad.Text.Numeral

/-!
# Arguments

The settings that can be given on the command line, and what the program
knows once all arguments have been read.
-/

namespace ReservationLoad.CommandLine

/-- The options that take a value. -/
inductive Setting
  | config
  | mode
  | workers
  | totalRequests
  | timeoutMs
  | url
  | seed
  | logEvery
  | mockStatus
  | mockDelayMs
  | resultsDir
deriving DecidableEq

namespace Setting

/-- All options that take a value. -/
def all : List Setting :=
  [config, mode, workers, totalRequests, timeoutMs, url, seed, logEvery, mockStatus,
    mockDelayMs, resultsDir]

/-- The name of an option, as it stands behind two hyphens. -/
def name : Setting → String
  | config => "config"
  | mode => "mode"
  | workers => "workers"
  | totalRequests => "total-requests"
  | timeoutMs => "timeout-ms"
  | url => "url"
  | seed => "seed"
  | logEvery => "log-every"
  | mockStatus => "mock-status"
  | mockDelayMs => "mock-delay-ms"
  | resultsDir => "results-dir"

/-- The option of a name; names may not be shortened. -/
def ofName? (text : String) : Option Setting := all.find? fun setting => setting.name = text

end Setting

/-- The options without a value. -/
inductive Switch
  | noExport
  | help
deriving DecidableEq

namespace Switch

/-- The name of a switch, as it stands behind two hyphens. -/
def name : Switch → String
  | noExport => "no-export"
  | help => "help"

/-- The switch of a name. -/
def ofName? (text : String) : Option Switch :=
  [noExport, help].find? fun switch => switch.name = text

end Switch

/-- What the arguments say. -/
structure Arguments where
  config : Option String := none
  mode : Mode := .http
  workers : Option UInt64 := none
  totalRequests : Option UInt64 := none
  timeoutMs : Option UInt64 := none
  url : Option String := none
  seed : Option UInt64 := none
  logEvery : Option UInt64 := none
  mockStatus : UInt16 := 200
  mockDelayMs : UInt64 := 5
  resultsDir : String := "results"
  noExport : Bool := false
deriving DecidableEq

/-- Why arguments are not carried out. -/
inductive Fault
  | helpWanted
  | unknownArgument (argument : String)
  | missingValue (setting : Setting)
  /-- The value may not be empty. -/
  | emptyValue (setting : Setting)
  | unknownMode (value : String)
  | badNumber (setting : Setting) (value : String) (cause : Text.NumeralFault)
  /-- The number is none that the setting can have. -/
  | outOfRange (setting : Setting) (value : String)
  | repeatedSetting (setting : Setting)
  | repeatedSwitch (switch : Switch)
  | needlessValue (switch : Switch)
deriving DecidableEq

/-- Asking for help is no failure. -/
def Fault.exitCode : Fault → Nat
  | helpWanted => 0
  | _ => 2

end ReservationLoad.CommandLine

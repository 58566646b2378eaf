import ReservationLoad.CommandLine.Basic

/-!
# Help

What is printed for those who ask for help, and what is printed to those
whose arguments cannot be carried out.
-/

namespace ReservationLoad.CommandLine

/-- What a setting is for. -/
def Setting.purpose : Setting → String
  | config => "Path to an optional TOML configuration file"
  | mode => "Submission mode [default: http] [possible values: mock, http]"
  | workers => "Worker thread count (overrides config and STRESS_WORKERS)"
  | totalRequests => "Total requests to send (overrides config and STRESS_TOTAL_REQUESTS)"
  | timeoutMs => "Per-request timeout in milliseconds"
  | url => "Target URL"
  | seed => "Seed for reproducible payloads"
  | logEvery => "Log every Nth request at info level"
  | mockStatus => "Status code the mock transport answers with [default: 200]"
  | mockDelayMs => "Simulated latency of the mock transport in milliseconds [default: 5]"
  | resultsDir => "Directory the JSON result file is written to [default: results]"

/-- An option with the place of its value. -/
def Setting.usage (setting : Setting) : String :=
  let place := setting.name.map fun c => if c = '-' then '_' else c.toUpper
  "--" ++ setting.name ++ " <" ++ place ++ ">"

/-- The lines of the help. -/
def helpLines : List String :=
  ["Reservation API stress runner - POSTs randomized reservations from a fixed worker pool", "",
    "Usage: stress [OPTIONS]", "", "Options:"] ++
  (Setting.all.flatMap fun setting =>
    ["      " ++ setting.usage, "          " ++ setting.purpose]) ++
  ["      --no-export", "          Skip writing the JSON result file",
    "  -h, --help", "          Print help"]

/-- What is wrong with arguments. -/
def Fault.message : Fault → String
  | helpWanted => ""
  | unknownArgument argument => "unexpected argument '" ++ argument ++ "' found"
  | missingValue setting =>
    "a value is required for '" ++ setting.usage ++ "' but none was supplied"
  | emptyValue setting =>
    "a value is required for '" ++ setting.usage ++ "' but none was supplied"
  | unknownMode value =>
    "invalid value '" ++ value ++ "' for '" ++ Setting.mode.usage ++ "'"
  | badNumber setting value cause =>
    "invalid value '" ++ value ++ "' for '" ++ setting.usage ++ "': " ++ cause.message
  | outOfRange setting value =>
    "invalid value '" ++ value ++ "' for '" ++ setting.usage ++ "': " ++ value ++
      " is not in 0..=65535"
  | repeatedSetting setting =>
    "the argument '" ++ setting.usage ++ "' cannot be used multiple times"
  | repeatedSwitch switch =>
    "the argument '--" ++ switch.name ++ "' cannot be used multiple times"
  | needlessValue switch =>
    "unexpected value for '--" ++ switch.name ++ "' found; no more were expected"

/-- The text that is printed about a fault. -/
def Fault.complaint (fault : Fault) : String :=
  "error: " ++ fault.message ++
    "\n\nUsage: stress [OPTIONS]\n\nFor more information, try '--help'.\n"

end ReservationLoad.CommandLine

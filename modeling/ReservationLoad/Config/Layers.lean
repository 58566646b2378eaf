import ReservationLoad.CommandLine.Basic
import ReservationLoad.Config.Environment
import ReservationLoad.Config.File
import ReservationLoad.Config.Validation

/-!
# Layers of settings

The settings of a run come from four layers: the built-in ones, a file, the
environment and the arguments.  Each layer overrides what the ones in front
of it say about a setting.
-/

namespace ReservationLoad.Config

/-- The configuration in front of the environment: that of the file, if one
is given. -/
def base (readFile : FileReader) (arguments : CommandLine.Arguments) : Except Fault Config :=
  match arguments.config with
  | none => .ok default
  | some path =>
    match ofFile readFile path with
    | .ok config => .ok config
    | .error cause => .error (.badFile path cause)

/-- The configuration with the settings that the arguments give. -/
def withArguments (arguments : CommandLine.Arguments) (config : Config) : Config where
  target :=
    { url := arguments.url.getD config.target.url
      timeoutMs := arguments.timeoutMs.getD config.target.timeoutMs }
  load :=
    { workers := arguments.workers.getD config.load.workers
      totalRequests := arguments.totalRequests.getD config.load.totalRequests
      logEvery := arguments.logEvery.getD config.load.logEvery }
  scenario := { seed := arguments.seed.or config.scenario.seed }

/-- The configuration of a run. -/
def effective (readUrl : Url.Parser) (readFile : FileReader) (lookup : Lookup)
    (arguments : CommandLine.Arguments) : Except Fault Config := do
  let config ← (← base readFile arguments).withEnvironment lookup
  let config := config.withArguments arguments
  config.validate readUrl
  pure config

end ReservationLoad.Config

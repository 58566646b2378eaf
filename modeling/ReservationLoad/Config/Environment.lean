import ReservationLoad.Config.Basic
import ReservationLoad.Config.Fault
import ReservationLoad.Text.Blank

/-!
# Settings from the environment

Every setting can be given by an environment variable.  The variables are
applied one after another in a fixed order, and those in front of a bad one
stay applied.
-/

namespace ReservationLoad.Config

/-- The variables of an environment. -/
abbrev Lookup := String → Option String

/-- The settings that a variable can give as a number. -/
inductive Variable
  | timeoutMs
  | workers
  | totalRequests
  | logEvery
  | seed
deriving DecidableEq

namespace Variable

/-- The variables in the order in which they are applied. -/
def all : List Variable := [timeoutMs, workers, totalRequests, logEvery, seed]

/-- The name of a variable. -/
def name : Variable → String
  | timeoutMs => "STRESS_TIMEOUT_MS"
  | workers => "STRESS_WORKERS"
  | totalRequests => "STRESS_TOTAL_REQUESTS"
  | logEvery => "STRESS_LOG_EVERY"
  | seed => "STRESS_SEED"

/-- The number that the text of a variable stands for; white space around it
does not count. -/
def read (which : Variable) (raw : String) : Except Fault UInt64 :=
  match Text.readWord (Text.trimBlank raw.toList) with
  | .ok number => .ok number
  | .error cause => .error (.badVariable which.name raw cause)

/-- Changes the setting that a variable stands for. -/
def assign (which : Variable) (value : UInt64) (config : Config) : Config :=
  match which with
  | timeoutMs => { config with target.timeoutMs := value }
  | workers => { config with load.workers := value }
  | totalRequests => { config with load.totalRequests := value }
  | logEvery => { config with load.logEvery := value }
  | seed => { config with scenario.seed := some value }

end Variable

/-- The variable of the target. -/
def urlVariable : String := "STRESS_TARGET_URL"

/-- The configuration with the target that the environment gives. -/
def withUrlVariable (lookup : Lookup) (config : Config) : Config :=
  match lookup urlVariable with
  | some url => { config with target.url := url }
  | none => config

/-- Applies variables one after another.  The first result is the
configuration so far, whether or not a variable is bad. -/
def applyVariables (lookup : Lookup) : List Variable → Config → Config × Option Fault
  | [], config => (config, none)
  | which :: later, config =>
    match lookup which.name with
    | none => applyVariables lookup later config
    | some raw =>
      match which.read raw with
      | .error fault => (config, some fault)
      | .ok value => applyVariables lookup later (which.assign value config)

/-- Applies the environment to a configuration as far as it goes. -/
def applyEnvironment (lookup : Lookup) (config : Config) : Config × Option Fault :=
  applyVariables lookup Variable.all (config.withUrlVariable lookup)

/-- The configuration with all that the environment gives. -/
def withEnvironment (lookup : Lookup) (config : Config) : Except Fault Config :=
  match config.applyEnvironment lookup with
  | (config, none) => .ok config
  | (_, some fault) => .error fault

end ReservationLoad.Config

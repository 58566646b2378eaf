import ReservationLoad.Live.Disk
import ReservationLoad.Live.Network
import ReservationLoad.Live.Workers
import ReservationLoad.Log.Line
import ReservationLoad.Program

/-!
# The command

The program as a process: its arguments and environment, its two outputs and
its exit code.
-/

namespace ReservationLoad.Live

open Program

/-- The variable that asks for lines without styles. -/
def plainVariable : String := "NO_COLOR"

/-- The environment as the settings look it up. -/
def environment : IO Config.Lookup := do
  let names :=
    Config.urlVariable :: filterVariable :: plainVariable :: Config.Variable.all.map (·.name)
  let known ← names.filterMapM fun name => do return (← IO.getEnv name).map (name, ·)
  return fun name => known.lookup name

/-- Prints a line at once. -/
def say (line : String) : IO Unit := do
  let out ← IO.getStdout
  out.putStr (line ++ "\n")
  out.flush

/-- Prints a line, an event with the time at which it is printed. -/
def print (styled : Bool) : Line → IO Unit
  | .event happened => do say (happened.stamped styled (← now))
  | .text line => say line

/-- How reservations are posted in a mode. -/
def poster (arguments : CommandLine.Arguments) (config : Config) : Reservation → IO Outcome :=
  match arguments.mode with
  | .http => post config.target
  | .mock => fun _ => do
    IO.sleep (min arguments.mockDelayMs 0xFFFFFFFF).toUInt32
    return .answered arguments.mockStatus

/-- A transport over which the requests are posted by threads. -/
def connect (arguments : CommandLine.Arguments) (config : Config) : Connection IO where
  name := arguments.mode.word
  loadTest tell :=
    LoadTest.conduct .checked config tell (workOff config ⟨poster arguments config, tell⟩)

/-- The system as a world of the program. -/
def world : IO (World IO) := do
  let lookup ← environment
  return {
    environment := lookup
    readUrl := Url.read
    files := files
    now := now
    print := print ((lookup plainVariable).getD "" = "")
    complain := IO.eprint
    connect := fun arguments config => return .ok (connect arguments config) }

end ReservationLoad.Live

open ReservationLoad in
/-- Runs the program. -/
def main (arguments : List String) : IO UInt32 := do
  let done ← (← Live.world).run arguments
  return done.exitCode.toUInt32

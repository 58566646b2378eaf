import ReservationLoad.CommandLine.Help
import ReservationLoad.CommandLine.Reader
import ReservationLoad.Config.Layers
import ReservationLoad.Http.Transport
import ReservationLoad.LoadTest
import ReservationLoad.Log.Filter
import ReservationLoad.Results.Store

/-!
# The program

The whole program in terms of what it asks of the world around it (`World`).
Arguments that cannot be carried out end it with one exit code and settings that
cannot be used with another; after that nothing that happens to a request, and
no result that cannot be saved, makes it fail.  Only checked arithmetic, where
it stops at the product for a percentile, breaks it off.

The same program runs on a system, and as a function of its surroundings
(`runWith`), in which disk, clock and network are given.
-/

namespace ReservationLoad.Program

open Chance

/-- A piece of what the program prints. -/
inductive Line
  | event (happened : Log.Event)
  | text (line : String)

/-- A transport that has been made ready. -/
structure Connection (m : Type → Type) where
  /-- The name of the transport. -/
  name : String
  /-- Makes a load test over the transport, tells its events and reports on it. -/
  loadTest : (Log.Event → m Unit) → m (Except Overflow Report)

/-- What the program asks of the world around it. -/
structure World (m : Type → Type) where
  environment : Config.Lookup
  readUrl : Url.Parser
  files : Files.Calls m
  now : m Calendar.Instant
  print : Line → m Unit
  /-- Tells why the program fails. -/
  complain : String → m Unit
  connect : CommandLine.Arguments → Config → m (Except (List String) (Connection m))

/-- What is known of the program when it has ended. -/
structure Done where
  exitCode : Nat
  report : Option Report := none
  /-- The path of the result file. -/
  resultPath : Option String := none

/-- The variable that sets the filter of the log. -/
def filterVariable : String := "RUST_LOG"

/-- The exit code of a program that has broken down. -/
def breakdownCode : Nat := 101

/-- The text about a failure with its causes.  Several causes are
numbered. -/
def failureText : List String → String
  | [] => ""
  | [outermost] => "Error: " ++ outermost ++ "\n"
  | [outermost, cause] => "Error: " ++ outermost ++ "\n\nCaused by:\n    " ++ cause ++ "\n"
  | outermost :: causes =>
    "Error: " ++ outermost ++ "\n\nCaused by:\n" ++
      String.join (causes.mapIdx fun i cause => "    " ++ toString i ++ ": " ++ cause ++ "\n")

/-- The events that announce a run. -/
def announcement (mode : Mode) (config : Config) : List Log.Event :=
  .starting mode.title config.load.workers config.load.totalRequests config.target.timeoutMs ::
    (config.scenario.seed.map Log.Event.seeded).toList

/-- The causes for which requests over the network cannot be made. -/
def networkFaultChain (cause : String) : List String :=
  ["Failed to create HTTP transport", "Failed to build HTTP client", cause]

/-- The lines of a report, with an empty one in front and one behind. -/
def reportLines (report : Report) : List Line :=
  (("" :: report.lines) ++ [""]).map .text

namespace World

variable {m : Type → Type} [Monad m] (world : World m)

/-- The filter of the log. -/
def filter : Log.Filter := .ofSetting (world.environment filterVariable)

/-- Prints an event, if the filter of the log lets it pass. -/
def tell (event : Log.Event) : m Unit :=
  if world.filter.passes event then world.print (.event event) else pure ()

/-- The configuration of a run. -/
def loadConfig (arguments : CommandLine.Arguments) : m (Except Config.Fault Config) := do
  let content : Except Files.Fault (List UInt8) ←
    match arguments.config with
    | some path => world.files.read path
    | none => pure (.error .missing)
  return Config.effective world.readUrl (fun _ => content) world.environment arguments

/-- Saves the result of a run unless that is not wanted, tells what came of it and
returns the path of its file. -/
def saveRun (arguments : CommandLine.Arguments) (config : Config) (transportName : String)
    (report : Report) : m (Option String) := do
  if arguments.noExport then return none
  let result : RunResult :=
    { timestamp := (← world.now).stamp
      mode := arguments.mode
      transport := transportName
      config
      report }
  match ← Results.save world.files world.now arguments.resultsDir result with
  | .ok path =>
    world.tell (.saved path)
    return some path
  | .error fault =>
    world.tell (.notSaved fault.chain)
    return none

/-- Makes a load test, prints its report and saves its result. -/
def conclude (arguments : CommandLine.Arguments) (config : Config)
    (connection : Connection m) : m Done := do
  match ← connection.loadTest world.tell with
  | .error overflow =>
    world.complain (overflow.message ++ "\n")
    return { exitCode := breakdownCode }
  | .ok report =>
    (reportLines report).forM world.print
    let resultPath ← world.saveRun arguments config connection.name report
    return { exitCode := 0, report := some report, resultPath }

/-- Carries out what the arguments ask for. -/
def carryOut (arguments : CommandLine.Arguments) : m Done := do
  match ← world.loadConfig arguments with
  | .error fault =>
    world.complain (failureText fault.chain)
    return { exitCode := 1 }
  | .ok config =>
    (announcement arguments.mode config).forM world.tell
    match ← world.connect arguments config with
    | .error causes =>
      world.complain (failureText causes)
      return { exitCode := 1 }
    | .ok connection =>
      world.tell (.connected connection.name)
      world.conclude arguments config connection

/-- The whole program. -/
def run (arguments : List String) : m Done := do
  match CommandLine.read arguments with
  | .error .helpWanted =>
    (CommandLine.helpLines.map Line.text).forM world.print
    return { exitCode := 0 }
  | .error fault =>
    world.complain fault.complaint
    return { exitCode := fault.exitCode }
  | .ok arguments => world.carryOut arguments

end World

/-! ## The program as a function -/

/-- What the program finds around it. -/
structure Surroundings (σ : Type) where
  arguments : List String
  environment : Config.Lookup
  readUrl : Url.Parser
  disk : Files.Disk
  /-- What the system refuses to the program. -/
  conditions : Files.Conditions
  arithmetic : Arithmetic
  /-- What answers the requests over the network. -/
  target : Http.Target
  /-- How long each delivery over the network takes. -/
  latency : Nat → Binary64
  /-- Why requests over the network cannot be made at all. -/
  networkFault : Option String
  /-- The random stream of each worker. -/
  streams : Nat → σ
  /-- How long the run takes. -/
  elapsed : Calendar.Span
  /-- The clock at each of its readings. -/
  clock : Nat → Calendar.Instant

/-- What has become of the surroundings so far. -/
structure Scene where
  disk : Files.Disk
  /-- What was printed, the latest first. -/
  output : List Line := []
  /-- What was told about a failure. -/
  complaint : String := ""
  /-- What was posted, the latest first. -/
  posts : List Post := []
  /-- How often the clock was read. -/
  readings : Nat := 0

/-- What is done to the disk of a scene. -/
def onDisk {α : Type} (action : StateM Files.Disk α) : StateM Scene α :=
  modifyGet fun scene =>
    let (result, disk) := action.run scene.disk
    (result, { scene with disk })

/-- How load tests go: where the pool of a load test ends. -/
abbrev Conduct (σ : Type) := Config → Transport → Pool σ

namespace Surroundings

variable {σ : Type} (around : Surroundings σ)

/-- The transport of a run. -/
def transport (arguments : CommandLine.Arguments) (config : Config) :
    Except (List String) Transport :=
  match arguments.mode with
  | .mock => .ok (.mock arguments.mockStatus arguments.mockDelayMs)
  | .http =>
    match around.networkFault with
    | some cause => .error (networkFaultChain cause)
    | none => .ok (Http.transport around.target around.latency config.target)

variable [WordSource σ]

/-- A load test that leaves a pool behind. -/
def workOff (pool : Pool σ) (tell : Log.Event → StateM Scene Unit) :
    StateM Scene (Pool σ × Calendar.Span) := do
  pool.eventLog.forM tell
  modify fun scene => { scene with posts := pool.shared.posts }
  return (pool, around.elapsed)

/-- The surroundings as a world. -/
def world (conduct : Conduct σ) : World (StateM Scene) where
  environment := around.environment
  readUrl := around.readUrl
  files := (Files.Disk.calls around.conditions).lift onDisk
  now := modifyGet fun scene =>
    (around.clock scene.readings, { scene with readings := scene.readings + 1 })
  print line := modify fun scene => { scene with output := line :: scene.output }
  complain text := modify fun scene => { scene with complaint := scene.complaint ++ text }
  connect arguments config := return (around.transport arguments config).map fun transport =>
    { name := transport.name
      loadTest := fun tell =>
        LoadTest.conduct around.arithmetic config tell
          (around.workOff (conduct config transport) tell) }

end Surroundings

/-- How the program ends. -/
structure Ending where
  exitCode : Nat
  output : List Line
  /-- What it prints about its failure. -/
  complaint : String
  disk : Files.Disk
  /-- What was posted, the latest first. -/
  posts : List Post
  report : Option Report
  /-- The path of the result file. -/
  resultPath : Option String

/-- The end of the program in a scene. -/
def Ending.of (done : Done) (scene : Scene) : Ending :=
  { done with
    output := scene.output.reverse
    complaint := scene.complaint
    disk := scene.disk
    posts := scene.posts }

variable {σ : Type} [WordSource σ]

/-- The whole program, with its load test as it may go. -/
def runWith (conduct : Conduct σ) (around : Surroundings σ) : Ending :=
  let (done, scene) := ((around.world conduct).run around.arguments).run { disk := around.disk }
  .of done scene

/-- The whole program, under the schedule of choice. -/
def run (around : Surroundings σ) : Ending :=
  runWith (fun config transport => LoadTest.run config transport around.streams) around

end ReservationLoad.Program

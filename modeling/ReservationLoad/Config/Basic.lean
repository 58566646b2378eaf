import ReservationLoad.Calendar.Span
import ReservationLoad.Wire.Shape

/-!
# Configurations

What a run needs to know: where the requests go, how many there are and who
sends them, and the seed of the sample data.  In a configuration document
every member may be missing and is then filled in by its default.
-/

namespace ReservationLoad

/-- Where the requests go. -/
structure TargetConfig where
  url : String := "http://localhost:8080"
  timeoutMs : UInt64 := 5000
deriving DecidableEq

/-- How many requests are sent and by how many workers. -/
structure LoadConfig where
  workers : UInt64 := 10
  totalRequests : UInt64 := 1000
  logEvery : UInt64 := 100
deriving DecidableEq

/-- What the requests carry. -/
structure ScenarioConfig where
  seed : Option UInt64 := none
deriving DecidableEq

/-- The settings of a run. -/
structure Config where
  target : TargetConfig := {}
  load : LoadConfig := {}
  scenario : ScenarioConfig := {}
deriving DecidableEq

namespace Config

/-- The built-in settings. -/
def default : Config := {}

end Config

/-- The time a request may take. -/
def TargetConfig.timeout (t : TargetConfig) : Calendar.Span := .ofMilliseconds t.timeoutMs

/-! ## Documents -/

open Wire

/-- A member's value, or its default where the member is missing. -/
def orDefault {α : Type} (fallback : α) (read : Datum → Option α) : Datum → Option α
  | .absent => some fallback
  | value => read value

instance : Document TargetConfig where
  shape := .record "TargetConfig" <| .ofList
    [("url", .defaulted, .text),
      ("timeout_ms", .defaulted, .natural .word64)]
  toDatum t := .record [.text t.url, .natural t.timeoutMs]
  ofDatum?
    | .record [url, timeoutMs] => do
      let fallback : TargetConfig := {}
      pure
        { url := ← orDefault fallback.url Datum.text? url
          timeoutMs := ← orDefault fallback.timeoutMs Datum.natural? timeoutMs }
    | _ => none

instance : Document LoadConfig where
  shape := .record "LoadConfig" <| .ofList
    [("workers", .defaulted, .natural .count),
      ("total_requests", .defaulted, .natural .word64),
      ("log_every", .defaulted, .natural .word64)]
  toDatum l := .record [.natural l.workers, .natural l.totalRequests, .natural l.logEvery]
  ofDatum?
    | .record [workers, totalRequests, logEvery] => do
      let fallback : LoadConfig := {}
      pure
        { workers := ← orDefault fallback.workers Datum.natural? workers
          totalRequests := ← orDefault fallback.totalRequests Datum.natural? totalRequests
          logEvery := ← orDefault fallback.logEvery Datum.natural? logEvery }
    | _ => none

instance : Document ScenarioConfig where
  shape := .record "ScenarioConfig" <| .ofList
    [("seed", .defaulted, .optional (.natural .word64))]
  toDatum s := .record [.ofOption Datum.natural s.seed]
  ofDatum?
    | .record [seed] => do
      pure { seed := ← seed.optional? Datum.natural? }
    | _ => none

instance : Document Config where
  shape := .record "Config" <| .ofList
    [("target", .defaulted, Document.shape TargetConfig),
      ("load", .defaulted, Document.shape LoadConfig),
      ("scenario", .defaulted, Document.shape ScenarioConfig)]
  toDatum c := .record
    [Document.toDatum c.target, Document.toDatum c.load, Document.toDatum c.scenario]
  ofDatum?
    | .record [target, load, scenario] => do
      pure
        { target := ← orDefault {} Document.ofDatum? target
          load := ← orDefault {} Document.ofDatum? load
          scenario := ← orDefault {} Document.ofDatum? scenario }
    | _ => none

end ReservationLoad

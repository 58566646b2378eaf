import ReservationLoad.Calendar.Span
import ReservationLoad.Report.Basic

/-!
# Collecting samples

Workers record one sample for each request: how long it took and whether it
succeeded.  A summary puts the samples in order first, so it depends only on
which samples were recorded.
-/

namespace ReservationLoad

/-- The samples recorded so far, the latest first, and how many of them were
successes and errors. -/
structure Collector where
  success : Nat
  errors : Nat
  samples : List Binary64
deriving DecidableEq

/-- The counts at one moment. -/
structure Snapshot where
  success : UInt64
  errors : UInt64
  samples : UInt64
deriving DecidableEq

namespace Collector

def empty : Collector := ⟨0, 0, []⟩

/-- Records one sample. -/
def record (c : Collector) (latency : Binary64) (success : Bool) : Collector :=
  { success := if success then c.success + 1 else c.success
    errors := if success then c.errors else c.errors + 1
    samples := latency :: c.samples }

/-- A sample counts either as a success or as an error. -/
theorem success_add_errors_record (c : Collector) (latency : Binary64) (success : Bool) :
    (c.record latency success).success + (c.record latency success).errors =
      c.success + c.errors + 1 := by
  cases success <;> simp [record] <;> omega

def snapshot (c : Collector) : Snapshot :=
  ⟨UInt64.ofNat c.success, UInt64.ofNat c.errors, UInt64.ofNat c.samples.length⟩

/-- Requests per second; zero when nothing was asked for or no time has
passed. -/
def throughput (total : UInt64) (elapsed : Binary64) : Binary64 :=
  if total = 0 || elapsed.numericallyLe .zero then .zero else .ofWord total / elapsed

/-- The report with the given latency figures on a run that took `span` and was
asked for `total` requests. -/
def reportWith (c : Collector) (span : Calendar.Span) (total : UInt64)
    (latency : Option LatencySummary) : Report :=
  { elapsedSeconds := span.toSeconds
    totalRequests := total
    success := UInt64.ofNat c.success
    errors := UInt64.ofNat c.errors
    throughput := throughput total span.toSeconds
    latency }

/-- The report on a run that took `span` and was asked for `total`
requests. -/
def summarize (arithmetic : Arithmetic) (c : Collector) (span : Calendar.Span)
    (total : UInt64) : Except Overflow Report :=
  (LatencySummary.ofAscending? arithmetic (Binary64.sortAscending c.samples)).map
    (c.reportWith span total)

end Collector

open Wire in
instance : Document Snapshot where
  shape := .record "StatsSnapshot" <| .ofList
    [("success", .required, .natural .word64),
      ("errors", .required, .natural .word64),
      ("samples", .required, .natural .word64)]
  toDatum s := .record [.natural s.success, .natural s.errors, .natural s.samples]
  ofDatum?
    | .record [success, errors, samples] => do
      pure ⟨← success.natural?, ← errors.natural?, ← samples.natural?⟩
    | _ => none

end ReservationLoad

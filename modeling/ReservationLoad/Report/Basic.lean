import ReservationLoad.Binary64.Text
import ReservationLoad.Report.Latency

/-!
# Reports

What is known about a run once it is over, as a document and as the lines
that are printed.
-/

namespace ReservationLoad

/-- The outcome of a run. -/
structure Report where
  elapsedSeconds : Binary64
  totalRequests : UInt64
  success : UInt64
  errors : UInt64
  throughput : Binary64
  latency : Option LatencySummary
deriving DecidableEq

namespace Report

/-- The number of requests that were recorded. -/
def completed (arithmetic : Arithmetic) (r : Report) : Except Overflow UInt64 :=
  arithmetic.add r.success r.errors

/-- The numeric comparison of all figures. -/
def numericallyEqual (r s : Report) : Bool :=
  let latencies :=
    match r.latency, s.latency with
    | none, none => true
    | some l, some m => l.numericallyEqual m
    | _, _ => false
  r.elapsedSeconds.numericallyEqual s.elapsedSeconds &&
    r.totalRequests == s.totalRequests && r.success == s.success && r.errors == s.errors &&
    r.throughput.numericallyEqual s.throughput && latencies

/-- The lines for the latency figures. -/
def latencyLines (l : LatencySummary) : List String :=
  ["Latency min: " ++ l.least.twoPlaces ++ "ms",
    "Latency max: " ++ l.greatest.twoPlaces ++ "ms",
    "Latency mean: " ++ l.mean.twoPlaces ++ "ms",
    "Latency stdev: " ++ l.deviation.twoPlaces ++ "ms",
    "Latency p50: " ++ l.p50.twoPlaces ++ "ms",
    "Latency p95: " ++ l.p95.twoPlaces ++ "ms",
    "Latency p99: " ++ l.p99.twoPlaces ++ "ms"]

/-- The printed lines: five without latency figures, twelve with them. -/
def lines (r : Report) : List String :=
  ["=== Stress Summary ===",
    "Elapsed: " ++ r.elapsedSeconds.twoPlaces ++ "s",
    "Success: " ++ toString r.success.toNat,
    "Errors: " ++ toString r.errors.toNat,
    "Throughput: " ++ r.throughput.twoPlaces ++ " req/s"] ++
  match r.latency with
  | none => []
  | some l => latencyLines l

/-- The printed text, without a line break at its end. -/
def text (r : Report) : String := String.intercalate "\n" r.lines

open Wire

instance : Document Report where
  shape := .record "Report" <| .ofList
    [("elapsed_secs", .required, .number),
      ("total_requests", .required, .natural .word64),
      ("success", .required, .natural .word64),
      ("errors", .required, .natural .word64),
      ("throughput_rps", .required, .number),
      ("latency", .required, .optional (Document.shape LatencySummary))]
  toDatum r := .record
    [.number r.elapsedSeconds, .natural r.totalRequests, .natural r.success,
      .natural r.errors, .number r.throughput, .ofOption Document.toDatum r.latency]
  ofDatum?
    | .record [elapsed, total, success, errors, throughput, latency] => do
      pure
        { elapsedSeconds := ← elapsed.number?
          totalRequests := ← total.natural?
          success := ← success.natural?
          errors := ← errors.natural?
          throughput := ← throughput.number?
          latency := ← latency.optional? Document.ofDatum? }
    | _ => none

end Report

end ReservationLoad

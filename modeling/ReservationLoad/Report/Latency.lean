import ReservationLoad.Arithmetic
import ReservationLoad.Binary64.Order
import ReservationLoad.Wire.Shape

/-!
# Latency figures

The figures of a run are computed from the ascending list of its samples: the
least and the greatest, mean and standard deviation, and three percentiles.
A percentile is one of the samples, not an interpolation between two.  Its place
is computed in words, so that there is none if the arithmetic is checked and the
product in it is no word.
-/

namespace ReservationLoad

/-- The index of a percentile given in thousandths, before it is cut to the last
sample. -/
def percentileIndex (arithmetic : Arithmetic) (count : Nat) (perMille : UInt64) :
    Except Overflow Nat :=
  (arithmetic.mul (UInt64.ofNat count) perMille).map fun product => (product / 1000).toNat

/-- The sample of the given percentile; zero when there are no samples. -/
def percentile (arithmetic : Arithmetic) (ascending : List Binary64) (perMille : UInt64) :
    Except Overflow Binary64 :=
  (percentileIndex arithmetic ascending.length perMille).map fun index =>
    ascending.getD (min index (ascending.length - 1)) .zero

/-- The figures of a run with at least one sample, in milliseconds. -/
structure LatencySummary where
  count : UInt64
  least : Binary64
  greatest : Binary64
  mean : Binary64
  deviation : Binary64
  p50 : Binary64
  p95 : Binary64
  p99 : Binary64
deriving DecidableEq

namespace LatencySummary

/-- The sum from left to right, starting with negative zero. -/
def sum (values : List Binary64) : Binary64 := values.foldl (· + ·) .negativeZero

/-- The square of the distance from the mean. -/
def squaredDistance (mean x : Binary64) : Binary64 := (x - mean) * (x - mean)

/-- The standard deviation of a sample; zero for a single value. -/
def deviationOf (mean : Binary64) (values : List Binary64) : Binary64 :=
  if 1 < values.length then
    (sum (values.map (squaredDistance mean)) / (Binary64.ofNat values.length - .ofNat 1)).sqrt
  else .zero

/-- The figures of an ascending list of samples, if it has any. -/
def ofAscending? (arithmetic : Arithmetic) (ascending : List Binary64) :
    Except Overflow (Option LatencySummary) :=
  match ascending with
  | [] => pure none
  | first :: more => do
    let mean := sum ascending / Binary64.ofNat ascending.length
    let p50 ← percentile arithmetic ascending 500
    let p95 ← percentile arithmetic ascending 950
    let p99 ← percentile arithmetic ascending 990
    pure <| some
      { count := UInt64.ofNat ascending.length
        least := first
        greatest := (first :: more).getLast (List.cons_ne_nil first more)
        mean
        deviation := deviationOf mean ascending
        p50
        p95
        p99 }

/-- The numeric comparison of all figures. -/
def numericallyEqual (s t : LatencySummary) : Bool :=
  s.count == t.count && s.least.numericallyEqual t.least &&
    s.greatest.numericallyEqual t.greatest && s.mean.numericallyEqual t.mean &&
    s.deviation.numericallyEqual t.deviation && s.p50.numericallyEqual t.p50 &&
    s.p95.numericallyEqual t.p95 && s.p99.numericallyEqual t.p99

open Wire

instance : Document LatencySummary where
  shape := .record "LatencySummary" <| .ofList
    [("count", .required, .natural .word64),
      ("min_ms", .required, .number),
      ("max_ms", .required, .number),
      ("mean_ms", .required, .number),
      ("stdev_ms", .required, .number),
      ("p50_ms", .required, .number),
      ("p95_ms", .required, .number),
      ("p99_ms", .required, .number)]
  toDatum s := .record
    [.natural s.count, .number s.least, .number s.greatest, .number s.mean,
      .number s.deviation, .number s.p50, .number s.p95, .number s.p99]
  ofDatum?
    | .record [count, least, greatest, mean, deviation, p50, p95, p99] => do
      pure
        { count := ← count.natural?
          least := ← least.number?
          greatest := ← greatest.number?
          mean := ← mean.number?
          deviation := ← deviation.number?
          p50 := ← p50.number?
          p95 := ← p95.number?
          p99 := ← p99.number? }
    | _ => none

end LatencySummary

end ReservationLoad

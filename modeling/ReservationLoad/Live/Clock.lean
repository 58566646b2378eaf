import ReservationLoad.Calendar.Instant
import ReservationLoad.Calendar.Span
import Std.Time.DateTime.Timestamp

/-!
# The clocks

The wall clock for time stamps, and the monotonic clock for how long things
take.
-/

namespace ReservationLoad.Live

/-- Reads the wall clock. -/
def now : IO Calendar.Instant := do
  let stamp ← Std.Time.Timestamp.now
  return ⟨stamp.toNanosecondsSinceUnixEpoch.val.toNat⟩

/-- Performs an action and tells how long it took. -/
def timed {α : Type} (action : IO α) : IO (α × Calendar.Span) := do
  let started ← IO.monoNanosNow
  let result ← action
  let ended ← IO.monoNanosNow
  return (result, .ofNanoseconds (ended - started))

end ReservationLoad.Live

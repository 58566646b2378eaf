import ReservationLoad.Binary64.Basic

/-!
# Spans of time

A span is a whole number of seconds and the nanoseconds beyond them.
-/

namespace ReservationLoad.Calendar

/-- A span of time. -/
structure Span where
  seconds : UInt64
  nanoseconds : UInt32
deriving DecidableEq

namespace Span

def ofMilliseconds (n : UInt64) : Span :=
  ⟨n / 1000, (n % 1000).toUInt32 * 1000000⟩

def ofNanoseconds (n : Nat) : Span :=
  ⟨UInt64.ofNat (n / 1000000000), UInt32.ofNat (n % 1000000000)⟩

/-- The span in seconds. -/
def toSeconds (s : Span) : Binary64 :=
  .ofWord s.seconds + .ofWord s.nanoseconds.toUInt64 / .ofNat 1000000000

/-- The span in milliseconds. -/
def toMilliseconds (s : Span) : Binary64 := s.toSeconds * .ofNat 1000

end Span

end ReservationLoad.Calendar

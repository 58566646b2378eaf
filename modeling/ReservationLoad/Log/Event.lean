import ReservationLoad.Binary64.Text

/-!
# Events

What a run has to tell while it goes on.  Each event has a level, the part of
the program it comes from, a message and named fields.
-/

namespace ReservationLoad.Log

/-- How much an event matters; the first level matters most. -/
inductive Level
  | error
  | warn
  | info
  | debug
  | trace
deriving DecidableEq

namespace Level

def word : Level → String
  | error => "ERROR"
  | warn => "WARN"
  | info => "INFO"
  | debug => "DEBUG"
  | trace => "TRACE"

/-- The place of a level, counted from one. -/
def rank : Level → Nat
  | error => 1
  | warn => 2
  | info => 3
  | debug => 4
  | trace => 5

end Level

/-- The value of a field. -/
inductive Field
  | count (value : Nat)
  | measure (value : Binary64)
  | words (value : String)

/-- Where an event happens. -/
inductive Thread
  | main
  | worker (id : Nat)
deriving DecidableEq

/-- The events of a run. -/
inductive Event
  | starting (mode : String) (workers totalRequests timeoutMs : UInt64)
  | seeded (seed : UInt64)
  | connected (transport : String)
  | sending (totalRequests : UInt64) (url : String) (workers : UInt64)
  | poolStarted (workers : Nat)
  | completed (worker : Nat) (request : UInt64) (status : UInt16) (latency : Binary64)
      (guest : String)
  | refused (worker : Nat) (request : UInt64) (status : UInt16)
  | failed (worker : Nat) (request : UInt64) (causes : List String)
  | crashed (worker : Nat) (request : UInt64) (message : Option String)
  | workerFinished (worker processed : Nat)
  | workerDied (worker : Nat) (message : String)
  | allFinished (processed : Nat) (seconds : Binary64)
  | saved (path : String)
  | notSaved (causes : List String)

namespace Event

def level : Event → Level
  | starting .. => .info
  | seeded _ => .info
  | connected _ => .info
  | sending .. => .info
  | poolStarted _ => .debug
  | completed .. => .info
  | refused .. => .debug
  | failed .. => .warn
  | crashed .. => .error
  | workerFinished .. => .debug
  | workerDied .. => .error
  | allFinished .. => .info
  | saved _ => .info
  | notSaved _ => .warn

/-- The part of the program that an event comes from. -/
def source : Event → String
  | starting .. => "stress"
  | seeded _ => "stress"
  | connected _ => "stress"
  | sending .. => "stress_core::runner"
  | poolStarted _ => "stress_core::pool"
  | completed .. => "stress_core::pool"
  | refused .. => "stress_core::pool"
  | failed .. => "stress_core::pool"
  | crashed .. => "stress_core::pool"
  | workerFinished .. => "stress_core::pool"
  | workerDied .. => "stress_core::pool"
  | allFinished .. => "stress_core::runner"
  | saved _ => "stress"
  | notSaved _ => "stress"

/-- The causes of a failure in one line. -/
def chain (causes : List String) : String := String.intercalate ": " causes

def message : Event → String
  | starting mode workers totalRequests timeoutMs =>
    "Starting stress run in " ++ mode ++ " mode: workers=" ++ toString workers.toNat ++
      " total_requests=" ++ toString totalRequests.toNat ++
      " timeout_ms=" ++ toString timeoutMs.toNat
  | seeded seed => "Seed: " ++ toString seed.toNat
  | connected transport => "Using transport: " ++ transport
  | sending totalRequests url workers =>
    "Sending " ++ toString totalRequests.toNat ++ " requests to " ++ url ++
      " with " ++ toString workers.toNat ++ " workers"
  | poolStarted _ => "worker pool started"
  | completed .. => "request completed"
  | refused .. => "non-200 response"
  | failed _ _ causes => "Request error: " ++ chain causes
  | crashed _ _ message => "Transport panicked: " ++ message.getD "unknown panic"
  | workerFinished .. => "worker finished"
  | workerDied _ message => "Worker thread panicked: " ++ message
  | allFinished processed seconds =>
    "All workers finished: " ++ toString processed ++ " requests in " ++
      seconds.twoPlaces ++ "s"
  | saved path => "Results written to " ++ path
  | notSaved causes => "Failed to write results: " ++ chain causes

/-- The fields of an event, in order. -/
def fields : Event → List (String × Field)
  | poolStarted workers => [("workers", .count workers)]
  | completed worker request status latency guest =>
    [("worker", .count worker), ("request", .count request.toNat),
      ("status", .count status.toNat), ("latency_ms", .measure latency),
      ("guest", .words guest)]
  | refused worker request status =>
    [("worker", .count worker), ("request", .count request.toNat),
      ("status", .count status.toNat)]
  | failed worker request _ =>
    [("worker", .count worker), ("request", .count request.toNat)]
  | crashed worker request _ =>
    [("worker", .count worker), ("request", .count request.toNat)]
  | workerFinished worker processed =>
    [("worker", .count worker), ("processed", .count processed)]
  | workerDied worker _ => [("worker", .count worker)]
  | starting .. => []
  | seeded _ => []
  | connected _ => []
  | sending .. => []
  | allFinished .. => []
  | saved _ => []
  | notSaved _ => []

/-- The request that an event is about. -/
def request? : Event → Option UInt64
  | completed _ request _ _ _ => some request
  | refused _ request _ => some request
  | failed _ request _ => some request
  | crashed _ request _ => some request
  | _ => none

def thread : Event → Thread
  | completed worker _ _ _ _ => .worker worker
  | refused worker _ _ => .worker worker
  | failed worker _ _ => .worker worker
  | crashed worker _ _ => .worker worker
  | _ => .main

end Event

end ReservationLoad.Log

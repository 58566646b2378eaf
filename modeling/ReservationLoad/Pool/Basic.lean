import ReservationLoad.Log.Event
import ReservationLoad.Report.Collector
import ReservationLoad.Reservation.Draw
import ReservationLoad.Transport
import ReservationLoad.Work.Queue

/-!
# The worker pool, step by step

A pool is a number of workers that share a queue of work, a collector of
samples and a transport.  Each worker goes round in a loop of small steps: it
takes an item, composes a reservation, posts it, reports what came of it,
records the sample, acknowledges the request and counts it.  One step of one
worker is atomic, and the steps of different workers may follow one another
in any order; `Pool.step?` is a step of a given worker.

A worker ends when it takes a stop signal.  It also ends, without
acknowledging or counting, when no reservation can be composed.
-/

namespace ReservationLoad

open Chance

/-- Where a worker stands in its loop. -/
inductive Stage
  /-- About to take an item. -/
  | idle
  /-- Has taken a request. -/
  | composing (request : UInt64)
  /-- Has composed the reservation for it. -/
  | posting (request : UInt64) (reservation : Reservation)
  /-- Knows what came of it. -/
  | reporting (request : UInt64) (reservation : Reservation) (reply : Reply)
  /-- Has reported it. -/
  | recording (request : UInt64) (reply : Reply)
  /-- Has recorded the sample. -/
  | acknowledging (request : UInt64)
  /-- Has acknowledged the request. -/
  | counting (request : UInt64)
  /-- Has taken a stop signal. -/
  | stopped
  /-- Could not compose a reservation for a request. -/
  | dead (request : UInt64) (message : String)

/-- A worker with its own random stream and its count of requests. -/
structure Worker (σ : Type) where
  stream : σ
  processed : Nat
  stage : Stage

namespace Worker

/-- A worker before its first step. -/
def fresh {σ : Type} (stream : σ) : Worker σ := ⟨stream, 0, .idle⟩

/-- Has the worker left its loop? -/
def hasEnded {σ : Type} (w : Worker σ) : Bool :=
  match w.stage with
  | .stopped => true
  | .dead _ _ => true
  | _ => false

end Worker

/-- What was posted, by whom and with what outcome. -/
structure Post where
  worker : Nat
  request : UInt64
  reservation : Reservation
  outcome : Outcome
deriving DecidableEq

/-- What the workers share.  Posts and events are kept with the latest
first. -/
structure Shared where
  queue : Work.Queue
  collector : Collector
  posts : List Post
  events : List Log.Event

/-- The settings of a pool. -/
structure PoolSettings where
  generator : Generator
  logEvery : UInt64

/-- The workers and what they share. -/
structure Pool (σ : Type) where
  workers : List (Worker σ)
  shared : Shared

/-- The event that reports on a request, if there is one.  Every so many
requests one that was answered is reported whatever its status; of the others
only those with an unwanted status. -/
def requestEvent? (logEvery : UInt64) (worker : Nat) (request : UInt64)
    (reservation : Reservation) (reply : Reply) : Option Log.Event :=
  match reply.outcome with
  | .answered status =>
    if logEvery > 0 && request % logEvery == 0 then
      some (.completed worker request status reply.latency reservation.guestName)
    else if status ≠ Outcome.successStatus then some (.refused worker request status)
    else none
  | .failed causes => some (.failed worker request causes)
  | .crashed message => some (.crashed worker request message)

variable {σ : Type} [WordSource σ]

/-- One step of a worker.  `answer` says what comes of a post.  There is no
step for a worker that has ended, nor for an idle one while the queue is
empty. -/
def Worker.step? (settings : PoolSettings) (answer : Reservation → Reply) (id : Nat)
    (me : Worker σ) (shared : Shared) : Option (Worker σ × Shared) :=
  match me.stage with
  | .idle =>
    match shared.queue.take? with
    | none => none
    | some (.request request, queue) =>
      some ({ me with stage := .composing request }, { shared with queue })
    | some (.shutdown, queue) => some ({ me with stage := .stopped }, { shared with queue })
  | .composing request =>
    match settings.generator.drawFor request me.stream with
    | .ok (reservation, stream) =>
      some ({ me with stream, stage := .posting request reservation }, shared)
    | .error fault => some ({ me with stage := .dead request fault.message }, shared)
  | .posting request reservation =>
    let reply := answer reservation
    some ({ me with stage := .reporting request reservation reply },
      { shared with posts := ⟨id, request, reservation, reply.outcome⟩ :: shared.posts })
  | .reporting request reservation reply =>
    let event := requestEvent? settings.logEvery id request reservation reply
    some ({ me with stage := .recording request reply },
      { shared with events := event.toList ++ shared.events })
  | .recording request reply =>
    some ({ me with stage := .acknowledging request },
      { shared with
        collector := shared.collector.record reply.latency reply.outcome.isSuccess })
  | .acknowledging request =>
    some ({ me with stage := .counting request },
      { shared with queue := shared.queue.acknowledge })
  | .counting _ => some ({ me with processed := me.processed + 1, stage := .idle }, shared)
  | .stopped => none
  | .dead _ _ => none

namespace Pool

/-- The number of posts made so far. -/
def postCount (p : Pool σ) : Nat := p.shared.posts.length

/-- A step of the worker with the given number, for a given answer to its
post. -/
def stepWith? (settings : PoolSettings) (answer : Reservation → Reply) (id : Nat)
    (p : Pool σ) : Option (Pool σ) := do
  let me ← p.workers[id]?
  let (me, shared) ← me.step? settings answer id p.shared
  pure ⟨p.workers.set id me, shared⟩

/-- A step of the worker with the given number over a transport. -/
def step? (settings : PoolSettings) (transport : Transport) (id : Nat) (p : Pool σ) :
    Option (Pool σ) :=
  p.stepWith? settings (transport.post p.postCount) id

/-- Have all workers ended? -/
def hasEnded (p : Pool σ) : Bool := p.workers.all Worker.hasEnded

/-- The pool of fresh workers over a queue and a collector; each worker has
the random stream that belongs to its number. -/
def start (streams : Nat → σ) (workers : Nat) (queue : Work.Queue) (collector : Collector)
    (posts : List Post) : Pool σ where
  workers := (List.range workers).map fun id => Worker.fresh (streams id)
  shared := ⟨queue, collector, posts, []⟩

/-- What joining a worker yields: the event that says how it ended, and the
number of requests it counted.  A dead worker counts for nothing. -/
def joinWorker (id : Nat) (w : Worker σ) : Log.Event × Nat :=
  match w.stage with
  | .dead _ message => (.workerDied id message, 0)
  | _ => (.workerFinished id w.processed, w.processed)

/-- The ends of all workers, in the order of their numbers. -/
def joined (p : Pool σ) : List (Log.Event × Nat) := p.workers.mapIdx joinWorker

/-- The number of requests that the workers counted. -/
def processed (p : Pool σ) : Nat := (p.joined.map (·.2)).foldr (· + ·) 0

/-- All events of a pool that has ended, in order. -/
def eventLog (p : Pool σ) : List Log.Event :=
  .poolStarted p.workers.length :: (p.shared.events.reverse ++ p.joined.map (·.1))

end Pool

end ReservationLoad

import ReservationLoad.Live.Clock
import ReservationLoad.LoadTest
import ReservationLoad.Chance.Cipher
import Std.Sync.Mutex

/-!
# Workers at work

Every worker is a thread of its own.  The threads share the state of the
pool and change it one turn at a time; only while it posts does a worker not
hold that state.  What has happened is told at once and not kept.
-/

namespace ReservationLoad.Live

open Chance

/-- A random stream that nobody can foresee. -/
def freshStream : IO Cipher := do
  let bytes ← IO.getRandomBytes 32
  let word := fun (i : Nat) =>
    (List.range 4).foldl
      (fun (value : UInt32) j => (value <<< 8) ||| (bytes.get! (4 * i + j)).toUInt32) 0
  return .ofKey ⟨word 0, word 1, word 2, word 3, word 4, word 5, word 6, word 7⟩

/-- What a run does besides changing the state of the pool. -/
structure Surface where
  post : Reservation → IO Outcome
  tell : Log.Event → IO Unit

/-- The reply to the post that a worker is about to make, if it is. -/
def Surface.replyTo? (surface : Surface) (stage : Stage) : IO (Option Reply) := do
  match stage with
  | .posting _ reservation =>
    let post : IO Outcome := do
      try surface.post reservation
      catch failure => return .failed [toString failure]
    let (outcome, span) ← timed post
    return some ⟨outcome, span.toMilliseconds⟩
  | _ => return none

/-- A turn of a worker, if there is anything left for it to do, and the events of
the turn. -/
def turn? (settings : PoolSettings) (shared : Std.Mutex (Pool Cipher)) (reply : Option Reply)
    (id : Nat) : IO (Option (List Log.Event)) :=
  shared.atomically do
    match (← get).turn? settings (reply.getD ⟨.crashed none, .zero⟩) id with
    | none => return none
    | some (events, pool) =>
      set pool
      return some events

/-- Lets a worker go round until it ends. -/
def work (settings : PoolSettings) (surface : Surface) (shared : Std.Mutex (Pool Cipher))
    (id : Nat) : IO Unit := do
  let mut going := true
  while going do
    let stage ← shared.atomically do return ((← get).workers[id]?.map (·.stage)).getD .stopped
    let reply ← surface.replyTo? stage
    match ← turn? settings shared reply id with
    | none => going := false
    | some events => events.forM surface.tell

/-- Has the pool of a load test worked off by threads. -/
def workOff (config : Config) (surface : Surface) : IO (Pool Cipher × Calendar.Span) := do
  let workers := config.load.workers.toNat
  let streams ← (Array.range workers).mapM fun _ => freshStream
  let pool := LoadTest.initial config fun id => streams.getD id (.ofSeed 0)
  let (pool, elapsed) ← timed do
    let shared ← Std.Mutex.new pool
    let threads ← (List.range workers).mapM fun id =>
      IO.asTask (work (LoadTest.settings config) surface shared id) Task.Priority.dedicated
    surface.tell (.poolStarted workers)
    threads.forM fun thread => discard (IO.wait thread)
    shared.atomically get
  pool.joined.forM fun (event, _) => surface.tell event
  return (pool, elapsed)

end ReservationLoad.Live

import ReservationLoad.Pool.Basic

/-!
# Running a pool to its end

A schedule names the worker that moves next, again and again.  The workers of
a real run are scheduled by chance; here the schedule of choice lets the first
worker move that can.  What a run leaves behind is the same under every
schedule, up to the order in which the workers' doings are listed.
-/

namespace ReservationLoad.Pool

open Chance

variable {σ : Type} [WordSource σ]

/-- One pool state leads to another by a step of some worker. -/
def Steps (settings : PoolSettings) (transport : Transport) (p q : Pool σ) : Prop :=
  ∃ id, p.step? settings transport id = some q

/-- One pool state leads to another by any number of steps. -/
inductive Reaches (settings : PoolSettings) (transport : Transport) : Pool σ → Pool σ → Prop
  | refl (p : Pool σ) : Reaches settings transport p p
  | tail {p q r : Pool σ} :
      Reaches settings transport p q → Steps settings transport q r →
      Reaches settings transport p r

/-- The first worker's step among the workers numbered from `id` on. -/
def firstStep? (settings : PoolSettings) (transport : Transport) (p : Pool σ) :
    (count id : Nat) → Option (Pool σ)
  | 0, _ => none
  | count + 1, id =>
    match p.step? settings transport id with
    | some q => some q
    | none => firstStep? settings transport p count (id + 1)

/-- How many steps a worker can make before it takes another item. -/
def stepsLeft (w : Worker σ) : Nat :=
  match w.stage with
  | .idle => 0
  | .composing _ => 6
  | .posting _ _ => 5
  | .reporting _ _ _ => 4
  | .recording _ _ => 3
  | .acknowledging _ => 2
  | .counting _ => 1
  | .stopped => 0
  | .dead _ _ => 0

/-- An upper bound for the number of steps of a pool: every waiting item
stands for the taking of it and the steps behind that. -/
def stepBound (p : Pool σ) : Nat :=
  7 * p.shared.queue.length + (p.workers.map stepsLeft).foldr (· + ·) 0

/-- The pool without the posts and events that it has kept. -/
def forget (p : Pool σ) : Pool σ := { p with shared := { p.shared with posts := [], events := [] } }

/-- A turn of the worker with the given number, for a given reply to its post: the
events of its step, and the pool without them.  It is for those who tell what
happens at once and do not keep it. -/
def turn? (settings : PoolSettings) (reply : Reply) (id : Nat) (p : Pool σ) :
    Option (List Log.Event × Pool σ) :=
  (p.stepWith? settings (fun _ => reply) id).map fun q => (q.shared.events.reverse, q.forget)

/-- Lets the first worker move that can, `fuel` times at most. -/
def advance (settings : PoolSettings) (transport : Transport) : Nat → Pool σ → Pool σ
  | 0, p => p
  | fuel + 1, p =>
    match firstStep? settings transport p p.workers.length 0 with
    | some q => advance settings transport fuel q
    | none => p

/-- Lets the workers move until none of them can. -/
def run (settings : PoolSettings) (transport : Transport) (p : Pool σ) : Pool σ :=
  advance settings transport p.stepBound p

end ReservationLoad.Pool

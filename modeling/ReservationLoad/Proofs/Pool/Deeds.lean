import ReservationLoad.Pool.Run
import ReservationLoad.Proofs.Work.Items

/-!
# Deeds of workers

A step of a worker is named by a deed: it takes an item from the queue, leads
the request in its hands past the next milestone of the loop, or dies over a
reservation that cannot be composed.  The relation `Worker.Moves` says of each
deed what it changes and what it leaves alone; `Worker.step?_eq_some_iff`
proves it equal to the step that runs.  All that follows about pools is
derived from that relation.
-/

namespace ReservationLoad

open Chance

/-- What every request goes through once a worker has taken it. -/
inductive Milestone
  | composed
  | posted
  | reported
  | recorded
  | acknowledged
  | counted
deriving DecidableEq

/-- The place of a milestone among all of them. -/
def Milestone.rank : Milestone → Nat
  | .composed => 0
  | .posted => 1
  | .reported => 2
  | .recorded => 3
  | .acknowledged => 4
  | .counted => 5

/-- What a worker does in one step. -/
inductive Deed
  | take (item : Work.Item)
  | pass (milestone : Milestone) (request : UInt64)
  | die (request : UInt64)
deriving DecidableEq

namespace Stage

/-- The request in the hands of a worker, and how many milestones it has
passed.  A dead worker still holds the request it died over. -/
def inHand? : Stage → Option (UInt64 × Nat)
  | .idle => none
  | .composing request => some (request, 0)
  | .posting request _ => some (request, 1)
  | .reporting request _ _ => some (request, 2)
  | .recording request _ => some (request, 3)
  | .acknowledging request => some (request, 4)
  | .counting request => some (request, 5)
  | .stopped => none
  | .dead request _ => some (request, 0)

/-- The requests in hand that have not passed a milestone: one or none. -/
def owing (milestone : Milestone) (stage : Stage) : List UInt64 :=
  match stage.inHand? with
  | none => []
  | some (request, passed) => if passed ≤ milestone.rank then [request] else []

end Stage

namespace Worker

variable {σ : Type} [WordSource σ]

/-- What a worker does next; nothing once it has ended, nor while it is idle
and the queue is empty. -/
def deed? (settings : PoolSettings) (queue : Work.Queue) (me : Worker σ) : Option Deed :=
  match me.stage with
  | .idle => queue.take?.map fun taken => .take taken.1
  | .composing request =>
    match settings.generator.drawFor request me.stream with
    | .ok _ => some (.pass .composed request)
    | .error _ => some (.die request)
  | .posting request _ => some (.pass .posted request)
  | .reporting request _ _ => some (.pass .reported request)
  | .recording request _ => some (.pass .recorded request)
  | .acknowledging request => some (.pass .acknowledged request)
  | .counting request => some (.pass .counted request)
  | .stopped => none
  | .dead _ _ => none

/-- How each deed changes the worker and what the workers share. -/
inductive Moves (settings : PoolSettings) (answer : Reservation → Reply) (id : Nat) :
    Deed → Worker σ → Shared → Worker σ → Shared → Prop
  | takeRequest {stream processed request later shared}
      (front : shared.queue.items = .request request :: later) :
      Moves settings answer id (.take (.request request))
        ⟨stream, processed, .idle⟩ shared
        ⟨stream, processed, .composing request⟩
        { shared with queue := { shared.queue with items := later } }
  | takeShutdown {stream processed later shared}
      (front : shared.queue.items = .shutdown :: later) :
      Moves settings answer id (.take .shutdown)
        ⟨stream, processed, .idle⟩ shared
        ⟨stream, processed, .stopped⟩
        { shared with queue := { shared.queue with items := later } }
  | compose {stream next processed request reservation shared}
      (drawn : settings.generator.drawFor request stream = .ok (reservation, next)) :
      Moves settings answer id (.pass .composed request)
        ⟨stream, processed, .composing request⟩ shared
        ⟨next, processed, .posting request reservation⟩ shared
  | die {stream processed request fault shared}
      (refused : settings.generator.drawFor request stream = .error fault) :
      Moves settings answer id (.die request)
        ⟨stream, processed, .composing request⟩ shared
        ⟨stream, processed, .dead request fault.message⟩ shared
  | post {stream processed request reservation shared} :
      Moves settings answer id (.pass .posted request)
        ⟨stream, processed, .posting request reservation⟩ shared
        ⟨stream, processed, .reporting request reservation (answer reservation)⟩
        { shared with
          posts := ⟨id, request, reservation, (answer reservation).outcome⟩ :: shared.posts }
  | report {stream processed request reservation reply shared} :
      Moves settings answer id (.pass .reported request)
        ⟨stream, processed, .reporting request reservation reply⟩ shared
        ⟨stream, processed, .recording request reply⟩
        { shared with
          events :=
            (requestEvent? settings.logEvery id request reservation reply).toList ++
              shared.events }
  | record {stream processed request reply shared} :
      Moves settings answer id (.pass .recorded request)
        ⟨stream, processed, .recording request reply⟩ shared
        ⟨stream, processed, .acknowledging request⟩
        { shared with
          collector := shared.collector.record reply.latency reply.outcome.isSuccess }
  | acknowledge {stream processed request shared} :
      Moves settings answer id (.pass .acknowledged request)
        ⟨stream, processed, .acknowledging request⟩ shared
        ⟨stream, processed, .counting request⟩
        { shared with queue := shared.queue.acknowledge }
  | count {stream processed request shared} :
      Moves settings answer id (.pass .counted request)
        ⟨stream, processed, .counting request⟩ shared
        ⟨stream, processed + 1, .idle⟩ shared

variable {settings : PoolSettings} {answer : Reservation → Reply} {id : Nat}
  {me me' : Worker σ} {shared shared' : Shared} {deed : Deed}

/-- The step that runs is one of the moves. -/
theorem moves_of_step?
    (step : me.step? settings answer id shared = some (me', shared')) :
    ∃ deed, Moves settings answer id deed me shared me' shared' := by
  rcases me with ⟨stream, processed, stage⟩
  cases stage with
  | idle =>
      simp only [step?] at step
      split at step
      · simp at step
      next request queue taken =>
        rcases Work.Queue.exists_later_of_take? taken with ⟨later, front, rfl⟩
        cases step
        exact ⟨_, .takeRequest front⟩
      next queue taken =>
        rcases Work.Queue.exists_later_of_take? taken with ⟨later, front, rfl⟩
        cases step
        exact ⟨_, .takeShutdown front⟩
  | composing request =>
      simp only [step?] at step
      split at step
      next reservation next drawn =>
        cases step
        exact ⟨_, .compose drawn⟩
      next fault refused =>
        cases step
        exact ⟨_, .die refused⟩
  | posting request reservation =>
      cases step
      exact ⟨_, .post⟩
  | reporting request reservation reply =>
      cases step
      exact ⟨_, .report⟩
  | recording request reply =>
      cases step
      exact ⟨_, .record⟩
  | acknowledging request =>
      cases step
      exact ⟨_, .acknowledge⟩
  | counting request =>
      cases step
      exact ⟨_, .count⟩
  | stopped => simp [step?] at step
  | dead request message => simp [step?] at step

theorem Moves.step? (move : Moves settings answer id deed me shared me' shared') :
    me.step? settings answer id shared = some (me', shared') := by
  cases move with
  | takeRequest front => simp [Worker.step?, Work.Queue.take?, front]
  | takeShutdown front => simp [Worker.step?, Work.Queue.take?, front]
  | compose drawn => simp [Worker.step?, drawn]
  | die refused => simp [Worker.step?, refused]
  | post => rfl
  | report => rfl
  | record => rfl
  | acknowledge => rfl
  | count => rfl

theorem Moves.deed? (move : Moves settings answer id deed me shared me' shared') :
    me.deed? settings shared.queue = some deed := by
  cases move with
  | takeRequest front => simp [Worker.deed?, Work.Queue.take?, front]
  | takeShutdown front => simp [Worker.deed?, Work.Queue.take?, front]
  | compose drawn => simp [Worker.deed?, drawn]
  | die refused => simp [Worker.deed?, refused]
  | post => rfl
  | report => rfl
  | record => rfl
  | acknowledge => rfl
  | count => rfl

/-- The relation and the step agree: a worker moves to a state by some deed
just when its step leads there, and the deed is the one it was about to do. -/
theorem step?_eq_some_iff :
    me.step? settings answer id shared = some (me', shared') ↔
      ∃ deed, me.deed? settings shared.queue = some deed ∧
        Moves settings answer id deed me shared me' shared' := by
  constructor
  · intro step
    rcases moves_of_step? step with ⟨deed, move⟩
    exact ⟨deed, move.deed?, move⟩
  · rintro ⟨_, _, move⟩
    exact move.step?

end Worker

end ReservationLoad

import ReservationLoad.Proofs.Pool.Effect

/-!
# Sessions

Items may be put into a queue, a pool may work off part of them, more items
may be put and another pool may go on.  The runs of such a session share
queue, collector and posts; `Session` lists what joining each pool yielded.
The main statement gives the effect of one run on any queue and, from it, the
accounts of a whole session.
-/

namespace ReservationLoad.Pool

open Chance Work

/-- Batches of items and runs of pools, in any order, from an empty queue and
an empty collector on: what is shared after them, the items that were put, and
what joining each pool yielded. -/
inductive Session (σ : Type) [WordSource σ] (settings : PoolSettings) :
    Shared → List Item → List Nat → Prop
  | fresh : Session σ settings ⟨.empty, .empty, [], []⟩ [] []
  | put {shared : Shared} {items : List Item} {yields : List Nat}
      (before : Session σ settings shared items yields) (batch : List Item) :
      Session σ settings { shared with queue := shared.queue.putAll batch }
        (items ++ batch) yields
  | run {shared : Shared} {items : List Item} {yields : List Nat} {streams : Nat → σ}
      {workers : Nat} {history : History} {p : Pool σ}
      (before : Session σ settings shared items yields)
      (enough : workers ≤ stopsIn shared.queue.items)
      (run : Run settings
        (start streams workers shared.queue shared.collector shared.posts) history p)
      (ended : p.hasEnded = true) :
      Session σ settings p.shared items (p.processed :: yields)

/-- The accounts of a session: every request that a pool worked off is a
sample with an outcome, and every other one waits. -/
structure Settled (shared : Shared) (items : List Item) (yields : List Nat) : Prop where
  sampled : shared.collector.samples.length = yields.sum
  outcomes : shared.collector.success + shared.collector.errors = yields.sum
  unfinished : shared.queue.unfinished = (requestsIn shared.queue.items).length
  complete : yields.sum + shared.queue.unfinished = (requestsIn items).length

variable {σ : Type} {settings : PoolSettings} {shared : Shared} {items : List Item}
  {yields : List Nat}

/-- A batch adds its requests to those that wait. -/
theorem Settled.put (settled : Settled shared items yields) (batch : List Item) :
    Settled { shared with queue := shared.queue.putAll batch } (items ++ batch) yields where
  sampled := settled.sampled
  outcomes := settled.outcomes
  unfinished := by
    simp [settled.unfinished]
  complete := by
    simp [← settled.complete, Nat.add_assoc]

/-- A run turns the requests it worked off into samples. -/
theorem Settled.run (settled : Settled shared items yields) {workers : Nat} {p : Pool σ}
    (drained : Drained workers shared.queue shared.collector shared.posts p) :
    Settled p.shared items (p.processed :: yields) where
  sampled := by
    rcases drained.sampled with ⟨new, added, number⟩
    rw [List.sum_cons, drained.joined, added, List.length_append, number, settled.sampled]
  outcomes := by
    rw [List.sum_cons, drained.joined, drained.outcomes, settled.outcomes, Nat.add_comm]
  unfinished := by
    have finished := drained.finished
    have parts := congrArg List.length
      (requestsIn_upToStops_append workers shared.queue.items)
    rw [List.length_append] at parts
    rw [settled.unfinished] at finished
    rw [drained.remaining]
    omega
  complete := by
    have finished := drained.finished
    have complete := settled.complete
    rw [List.sum_cons, drained.joined]
    omega

variable [WordSource σ]

/-- The accounts of every session are settled after every one of its steps. -/
theorem Session.settled (stocked : settings.generator.tables.Stocked)
    (session : Session σ settings shared items yields) : Settled shared items yields := by
  induction session with
  | fresh => exact ⟨rfl, rfl, rfl, rfl⟩
  | put _ batch ih => exact ih.put batch
  | run _ _ run ended ih =>
      exact ih.run (run.drained stocked ih.unfinished.ge ended)

/-- With a stop signal for each worker and a count that includes all waiting
requests, a pool goes on until it ends, and whatever the schedule and the
answers it then leaves behind the same: the items behind the last stop signal
taken, posts and samples for the requests in front of it, and their number.
The accounts of any session of batches and runs follow. -/
theorem pool_run_effect (settings : PoolSettings)
    (stocked : settings.generator.tables.Stocked) :
    (∀ (streams : Nat → σ) (workers : Nat) (queue : Queue) (collector : Collector)
        (posts : List Post) (history : History) (p : Pool σ),
      workers ≤ stopsIn queue.items →
      (requestsIn queue.items).length ≤ queue.unfinished →
      Run settings (start streams workers queue collector posts) history p →
      history.length ≤ (start streams workers queue collector posts).stepBound ∧
      Unblocked settings p ∧
      (p.hasEnded = true → Drained workers queue collector posts p)) ∧
    ∀ shared items yields, Session σ settings shared items yields →
      Settled shared items yields := by
  refine ⟨?_, fun shared items yields session => session.settled stocked⟩
  intro streams workers queue collector posts history p enough counted run
  have bound := run.length_add_stepBound_le
  have supplied := run.supplied (supplied_start streams enough collector posts)
  have alive := run.survived stocked (alive_start streams workers queue collector posts)
  refine ⟨by omega, supplied.unblocked stocked alive, ?_⟩
  exact fun ended => run.drained stocked counted ended

/-- Two workers and a queue on which a request is repeated, a stop signal
stands between the requests and another one with a request behind it is left
over. -/
theorem pool_run_effect_two_workers :
    let settings : PoolSettings := ⟨⟨Tables.standard, none⟩, 100⟩
    let items : List Item :=
      [.request 7, .shutdown, .request 7, .request 9, .shutdown, .shutdown, .request 1]
    let first : Pool Script :=
      start (fun _ => .ofList []) 2 (Queue.empty.putAll items) .empty []
    let last := first.run settings (.mock 200 0)
    settings.generator.tables.Stocked ∧
      last.shared.queue.items = [.shutdown, .request 1] ∧
      (last.shared.posts.map Post.request).Perm [7, 7, 9] ∧
      last.processed = 3 ∧ last.shared.collector.samples.length = 3 ∧
      last.shared.queue.unfinished = 1 := by
  intro settings items first last
  rcases Run.of_reaches (run_reaches settings (.mock 200 0) first) with ⟨history, run⟩
  have enough : 2 ≤ stopsIn (Queue.empty.putAll items).items := by decide
  have ended : last.hasEnded = true :=
    (supplied_start _ enough .empty []).run_hasEnded settings _
  have effect := pool_run_effect (σ := Script) settings Tables.standard_stocked
  have drained := (effect.1 _ 2 _ _ _ history last enough (by decide) run).2.2 ended
  rcases drained.posted with ⟨new, added, posted⟩
  have session : Session Script settings last.shared items [last.processed] :=
    .run (.put .fresh items) enough run ended
  have settled := effect.2 _ _ _ session
  have processed : last.processed = 3 := drained.joined
  refine ⟨Tables.standard_stocked, drained.remaining, ?_, processed, ?_, ?_⟩
  · rw [added, List.append_nil]
    exact posted
  · rw [settled.sampled, processed]
    rfl
  · rw [settled.unfinished, drained.remaining]
    rfl

end ReservationLoad.Pool

import ReservationLoad.Proofs.Pool.Milestones
import ReservationLoad.Proofs.Reservation.Stock

/-!
# Stop signals

Every worker leaves its loop by taking one stop signal and takes no other, so
the signals that were taken are as many as the workers that have stopped
(`Run.stops`).  A pool with a signal for each of its workers therefore never
runs dry before its last worker has ended, and with stocked tables no worker
ends otherwise.
-/

namespace ReservationLoad

open Chance Work

/-- Has the worker taken a stop signal? -/
def Worker.hasStopped {σ : Type} (w : Worker σ) : Bool :=
  match w.stage with
  | .stopped => true
  | _ => false

/-- Did the worker die over a reservation? -/
def Worker.hasDied {σ : Type} (w : Worker σ) : Bool :=
  match w.stage with
  | .dead _ _ => true
  | _ => false

namespace Worker

variable {σ : Type}

theorem hasEnded_eq (w : Worker σ) : w.hasEnded = (w.hasStopped || w.hasDied) := by
  unfold hasEnded hasStopped hasDied
  cases w.stage <;> rfl

theorem hasStopped_iff {w : Worker σ} : w.hasStopped = true ↔ w.stage = .stopped := by
  unfold hasStopped
  cases w.stage <;> simp

theorem owing_of_hasStopped {w : Worker σ} (stopped : w.hasStopped = true)
    (milestone : Milestone) : w.stage.owing milestone = [] := by
  rw [hasStopped_iff.mp stopped]
  rfl

namespace Moves

variable [WordSource σ] {settings : PoolSettings} {answer : Reservation → Reply}
  {id : Nat} {deed : Deed} {me me' : Worker σ} {shared shared' : Shared}

/-- A stop signal leaves the queue just when a worker stops. -/
theorem stops (move : Worker.Moves settings answer id deed me shared me' shared') :
    me'.hasStopped.toNat + stopsIn shared'.queue.items =
      me.hasStopped.toNat + stopsIn shared.queue.items := by
  cases move with
  | takeRequest front => simp [hasStopped, front]
  | takeShutdown front => simp [hasStopped, front, Nat.add_comm]
  | _ => simp [hasStopped, Queue.acknowledge]

/-- A worker stops by taking a stop signal and in no other way. -/
theorem stop_taken (move : Worker.Moves settings answer id deed me shared me' shared') :
    me'.hasStopped.toNat =
      me.hasStopped.toNat + if deed = .take .shutdown then 1 else 0 := by
  cases move <;> simp [hasStopped]

/-- With stocked tables nobody dies. -/
theorem survived (stocked : settings.generator.tables.Stocked)
    (move : Worker.Moves settings answer id deed me shared me' shared') :
    me'.hasDied = false := by
  cases move with
  | @die stream processed request fault shared refused =>
      obtain ⟨reservation, later, drawn⟩ :=
        Generator.drawFor_of_stocked stocked request stream
      rw [drawn] at refused
      cases refused
  | _ => rfl

end Moves

end Worker

namespace Pool

variable {σ : Type}

theorem tally_toNat (holds : Worker σ → Bool) (p : Pool σ) :
    p.tally (fun w => (holds w).toNat) = p.workers.countP holds :=
  sum_map_toNat holds p.workers

theorem countP_hasStopped_add (p : Pool σ) :
    p.workers.countP Worker.hasStopped + p.workers.countP (fun w => !w.hasStopped) =
      p.workers.length := by
  simpa using (List.length_eq_countP_add_countP Worker.hasStopped (l := p.workers)).symm

/-! ## The start of a pool -/

section Start

variable (streams : Nat → σ) (workers : Nat) (queue : Queue) (collector : Collector)
  (posts : List Post)

theorem fresh_of_mem_start {w : Worker σ}
    (member : w ∈ (start streams workers queue collector posts).workers) :
    ∃ id, w = .fresh (streams id) := by
  rcases List.mem_map.mp member with ⟨id, _, rfl⟩
  exact ⟨id, rfl⟩

@[simp]
theorem length_workers_start :
    (start streams workers queue collector posts).workers.length = workers := by
  simp [start]

@[simp]
theorem shared_start :
    (start streams workers queue collector posts).shared = ⟨queue, collector, posts, []⟩ := rfl

/-- What fresh workers weigh nothing of, nobody weighs at the start. -/
theorem tally_start {M : Type} [AddCancelCommMonoid M] {weigh : Worker σ → M}
    (nothing : ∀ stream, weigh (.fresh stream) = 0) :
    (start streams workers queue collector posts).tally weigh = 0 := by
  apply tally_eq_zero
  intro w member
  rcases fresh_of_mem_start _ _ _ _ _ member with ⟨id, rfl⟩
  exact nothing _

@[simp]
theorem owing_start (milestone : Milestone) :
    (start streams workers queue collector posts).owing milestone = 0 :=
  tally_start _ _ _ _ _ fun _ => rfl

/-- Nobody has stopped at the start, -/
@[simp]
theorem countP_hasStopped_start :
    (start streams workers queue collector posts).workers.countP Worker.hasStopped = 0 := by
  rw [← tally_toNat]
  exact tally_start _ _ _ _ _ fun _ => rfl

/-- and nobody has died. -/
theorem alive_start :
    ∀ w ∈ (start streams workers queue collector posts).workers, w.hasDied = false := by
  intro w member
  rcases fresh_of_mem_start _ _ _ _ _ member with ⟨id, rfl⟩
  rfl

end Start

/-! ## Signals during a run -/

variable [WordSource σ] {settings : PoolSettings} {history : History} {p q : Pool σ}

/-- Signals that wait and workers that have stopped: their number stays. -/
theorem Run.stops (run : Run settings p history q) :
    q.workers.countP Worker.hasStopped + stopsIn q.shared.queue.items =
      p.workers.countP Worker.hasStopped + stopsIn p.shared.queue.items := by
  have balance := run.balance (fun w => w.hasStopped.toNat)
    (fun shared => stopsIn shared.queue.items) (fun _ _ => 0)
    fun move => by simpa using move.stops
  simpa [tally_toNat, payments] using balance

/-- No worker takes more than one signal, and one that has stopped has taken
one. -/
theorem Run.stops_taken (run : Run settings p history q) {own : Nat} {first me : Worker σ}
    (start : p.workers[own]? = some first) (found : q.workers[own]? = some me) :
    me.hasStopped.toNat = first.hasStopped.toNat + history.count (own, .take .shutdown) := by
  refine run.localInvariant own
    (fun h w _ =>
      w.hasStopped.toNat = first.hasStopped.toNat + h.count (own, .take .shutdown))
    ?own ?other ?start me found
  case own =>
    intro answer deed shared shared' history me me' move before
    rw [move.stop_taken, before, List.count_cons]
    by_cases same : deed = .take .shutdown <;> simp [same, Nat.add_assoc]
  case other =>
    intro answer other deed shared shared' history me they they' different move before
    rw [before, List.count_cons]
    simp [different]
  case start =>
    intro me same
    obtain rfl : first = me := Option.some.inj (start.symm.trans same)
    simp

/-- With stocked tables everybody survives. -/
theorem Run.survived (run : Run settings p history q)
    (stocked : settings.generator.tables.Stocked)
    (alive : ∀ w ∈ p.workers, w.hasDied = false) : ∀ w ∈ q.workers, w.hasDied = false := by
  refine run.invariant (fun _ r => ∀ w ∈ r.workers, w.hasDied = false) ?_ alive
  intro h q r id deed answer before next step w member
  rcases moves_of_deed? next step with ⟨me, me', shared', found, move, rfl⟩
  rcases List.mem_or_eq_of_mem_set member with old | rfl
  · exact before w old
  · exact move.survived stocked

end Pool

end ReservationLoad

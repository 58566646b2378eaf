import Mathlib.Algebra.Order.Group.Nat
import ReservationLoad.Proofs.Pool.Progress

/-!
# What a pool leaves behind

A pool of `n` workers works off the items up to the `n`-th stop signal and
touches none behind it, whatever the schedule: while `k` workers have yet to
stop, what lies behind the next `k` signals is always the same
(`Run.afterStops`).  So the effect of a run is fixed by its queue, up to the
order in which requests and samples are listed, and the effects of runs on
the same queue follow one another as those of a single worker would
(`Session`).
-/

namespace ReservationLoad

open Chance Work

namespace Worker.Moves

variable {σ : Type} [WordSource σ] {settings : PoolSettings} {answer : Reservation → Reply}
  {id : Nat} {deed : Deed} {me me' : Worker σ} {shared shared' : Shared}

/-- A move leaves alone what lies behind the stop signals for its worker and
for `others` more. -/
theorem afterStops (move : Worker.Moves settings answer id deed me shared me' shared')
    (others : Nat) :
    Work.afterStops (others + (!me'.hasStopped).toNat) shared'.queue.items =
      Work.afterStops (others + (!me.hasStopped).toNat) shared.queue.items := by
  cases move with
  | takeRequest front => simp [hasStopped, front, Work.afterStops]
  | takeShutdown front => simp [hasStopped, front, Work.afterStops]
  | _ => rfl

theorem posts_suffix (move : Worker.Moves settings answer id deed me shared me' shared') :
    shared.posts <:+ shared'.posts := by
  cases move with
  | post => exact List.suffix_cons _ _
  | _ => exact List.suffix_refl _

theorem samples_suffix (move : Worker.Moves settings answer id deed me shared me' shared') :
    shared.collector.samples <:+ shared'.collector.samples := by
  cases move with
  | record => exact List.suffix_cons _ _
  | _ => exact List.suffix_refl _

end Worker.Moves

namespace Pool

variable {σ : Type}

/-- The number of workers that have not taken their stop signals. -/
def running (p : Pool σ) : Nat := p.workers.countP fun w => !w.hasStopped

/-- Joining yields all that was counted, if the dead had counted nothing. -/
theorem processed_eq_tally {p : Pool σ}
    (unserved : ∀ w ∈ p.workers, w.hasDied = true → w.processed = 0) :
    p.processed = p.tally Worker.processed := by
  have counts : p.joined.map (·.2) = p.workers.map Worker.processed := by
    apply List.ext_getElem (by simp [joined])
    intro id _ inside
    simp only [joined, List.getElem_mapIdx, List.getElem_map]
    have lost := unserved _ (List.getElem_mem (by simpa using inside))
    unfold joinWorker
    split
    next request message dead => simp [lost (by simp [Worker.hasDied, dead])]
    next => rfl
  rw [processed, counts]
  rfl

variable [WordSource σ] {settings : PoolSettings} {history : History} {p q : Pool σ}

/-- What lies behind the stop signals for those who run stays as it is. -/
theorem Run.afterStops (run : Run settings p history q) :
    Work.afterStops q.running q.shared.queue.items =
      Work.afterStops p.running p.shared.queue.items := by
  refine run.invariant
    (fun _ r => Work.afterStops r.running r.shared.queue.items =
      Work.afterStops p.running p.shared.queue.items) ?_ rfl
  intro h q r id deed answer before next step
  rcases moves_of_deed? next step with ⟨me, me', shared', found, move, rfl⟩
  -- The moving worker's own signal is split off, so that the others stay fixed.
  have exchanged := sum_map_set (fun w : Worker σ => (!w.hasStopped).toNat) found me'
  have part : (!me.hasStopped).toNat ≤ q.tally fun w => (!w.hasStopped).toNat :=
    List.le_sum_of_mem (List.mem_map.mpr ⟨me, List.mem_of_getElem? found, rfl⟩)
  rcases Nat.exists_eq_add_of_le' part with ⟨others, rest⟩
  have left : q.running = others + (!me.hasStopped).toNat := by
    rw [running, ← tally_toNat, rest]
  have right : running ⟨q.workers.set id me', shared'⟩ = others + (!me'.hasStopped).toNat := by
    rw [running, ← tally_toNat]
    simp only [tally] at rest ⊢
    omega
  rw [right, move.afterStops others, ← left]
  exact before

theorem Run.posts_suffix (run : Run settings p history q) :
    p.shared.posts <:+ q.shared.posts :=
  run.sharedInvariant (fun _ shared => p.shared.posts <:+ shared.posts)
    (fun move before => before.trans move.posts_suffix) (List.suffix_refl _)

theorem Run.samples_suffix (run : Run settings p history q) :
    p.shared.collector.samples <:+ q.shared.collector.samples :=
  run.sharedInvariant
    (fun _ shared => p.shared.collector.samples <:+ shared.collector.samples)
    (fun move before => before.trans move.samples_suffix) (List.suffix_refl _)

/-! ## The effect of one run -/

/-- What a pool of `workers` workers makes of a queue, a collector and a list
of posts. -/
structure Drained (workers : Nat) (queue : Queue) (collector : Collector)
    (posts : List Post) (p : Pool σ) : Prop where
  /-- What waits is what stood behind the last stop signal taken. -/
  remaining : p.shared.queue.items = Work.afterStops workers queue.items
  /-- New posts were made for the requests in front of that signal. -/
  posted : ∃ new, p.shared.posts = new ++ posts ∧
    (new.map Post.request).Perm (requestsIn (upToStops workers queue.items))
  /-- Joining yields their number. -/
  joined : p.processed = (requestsIn (upToStops workers queue.items)).length
  /-- So many samples were added. -/
  sampled : ∃ new, p.shared.collector.samples = new ++ collector.samples ∧
    new.length = (requestsIn (upToStops workers queue.items)).length
  /-- So many outcomes were counted. -/
  outcomes : p.shared.collector.success + p.shared.collector.errors =
    collector.success + collector.errors +
      (requestsIn (upToStops workers queue.items)).length
  /-- So many requests are no longer unfinished. -/
  finished : p.shared.queue.unfinished +
    (requestsIn (upToStops workers queue.items)).length = queue.unfinished

section Start

variable {streams : Nat → σ} {workers : Nat} {queue : Queue} {collector : Collector}
  {posts : List Post}

omit [WordSource σ] in
@[simp]
theorem running_start : (start streams workers queue collector posts).running = workers := by
  have parts := countP_hasStopped_add (start streams workers queue collector posts)
  rw [length_workers_start, countP_hasStopped_start, Nat.zero_add] at parts
  exact parts

/-- With stocked tables a run that has ended leaves every worker stopped. -/
theorem Run.stopped (stocked : settings.generator.tables.Stocked)
    (run : Run settings (start streams workers queue collector posts) history p)
    (ended : p.hasEnded = true) : ∀ w ∈ p.workers, w.hasStopped = true := by
  apply stopped_of_hasEnded ended
  exact run.survived stocked (alive_start streams workers queue collector posts)

omit [WordSource σ] in
/-- When all have stopped nobody owes anything. -/
theorem owing_of_stopped (stopped : ∀ w ∈ p.workers, w.hasStopped = true)
    (milestone : Milestone) : p.owing milestone = 0 := by
  apply tally_eq_zero
  intro w member
  rw [Worker.owing_of_hasStopped (stopped w member)]
  rfl

theorem Run.remaining
    (run : Run settings (start streams workers queue collector posts) history p)
    (stopped : ∀ w ∈ p.workers, w.hasStopped = true) :
    p.shared.queue.items = Work.afterStops workers queue.items := by
  have nobody : p.running = 0 := by
    rw [running, List.countP_eq_zero]
    intro w member
    simp [stopped w member]
  have behind := run.afterStops
  rw [nobody, running_start, shared_start] at behind
  simpa [Work.afterStops] using behind

/-- At the end every milestone has been passed by exactly the requests in
front of the last stop signal. -/
theorem Run.passed_perm
    (run : Run settings (start streams workers queue collector posts) history p)
    (stopped : ∀ w ∈ p.workers, w.hasStopped = true) (milestone : Milestone) :
    (History.passed milestone history).Perm (requestsIn (upToStops workers queue.items)) := by
  have account := run.milestones milestone
  rw [owing_of_stopped stopped, owing_start, zero_add, zero_add, shared_start,
    run.remaining stopped] at account
  rw [← Multiset.coe_eq_coe]
  apply add_left_cancel (a := (requestsIn (Work.afterStops workers queue.items) : Multiset UInt64))
  rw [account, add_comm, Multiset.coe_add, requestsIn_upToStops_append]

/-- The effect of a run does not depend on its schedule nor on the answers to
the posts. -/
theorem Run.drained (stocked : settings.generator.tables.Stocked)
    (counted : (requestsIn queue.items).length ≤ queue.unfinished)
    (run : Run settings (start streams workers queue collector posts) history p)
    (ended : p.hasEnded = true) : Drained workers queue collector posts p := by
  have stopped := run.stopped stocked ended
  have passed := run.passed_perm stopped
  have alive : ∀ w ∈ p.workers, w.hasDied = false := by
    intro w member
    have halted := stopped w member
    rw [Worker.hasStopped_iff] at halted
    simp [Worker.hasDied, halted]
  refine ⟨run.remaining stopped, ?posted, ?joined, ?sampled, ?outcomes, ?finished⟩
  case posted =>
    rcases run.posts_suffix with ⟨new, added⟩
    refine ⟨new, added.symm, ?_⟩
    have listed := run.posts
    rw [← added, List.map_append, List.append_cancel_right_eq] at listed
    rw [listed]
    exact passed .posted
  case joined =>
    have account := run.processed
    rw [tally_start _ _ _ _ _ fun _ => rfl, (passed .counted).length_eq] at account
    have unserved : ∀ w ∈ p.workers, w.hasDied = true → w.processed = 0 := by
      intro w member died
      simp [alive w member] at died
    rw [processed_eq_tally unserved, account, Nat.add_zero]
  case sampled =>
    rcases run.samples_suffix with ⟨new, added⟩
    refine ⟨new, added.symm, ?_⟩
    have account := run.samples
    rw [← added, List.length_append, (passed .recorded).length_eq] at account
    omega
  case outcomes =>
    have account := run.outcomes
    rw [(passed .recorded).length_eq] at account
    simp only [shared_start] at account
    omega
  case finished =>
    have account := run.unfinished (by simpa using counted)
    rwa [(passed .acknowledged).length_eq, shared_start] at account

end Start

end Pool

end ReservationLoad

import ReservationLoad.LoadTest
import ReservationLoad.Proofs.Pool.Effect
import ReservationLoad.Proofs.Report.Summary

/-!
# Every request exactly once

A load test with at least one worker posts every request from one to its
total once and no other, and reports what came of them, under every schedule
and whatever the transport answers.  Each worker posts its share in ascending
order and takes one stop signal; nothing is left in the queue.  The report is only
lacking where checked arithmetic stops at the product for the last percentile, of
more requests than 2⁶⁴ has thousandths.
-/

namespace ReservationLoad.LoadTest

open Chance Work

/-- What a report says of the posts of a load test. -/
structure Accounts (config : Config) (posts : List Post) (r : Report) : Prop where
  /-- The number of requests that was asked for, -/
  total : r.totalRequests = config.load.totalRequests
  /-- how many of the posts were answered as wanted, -/
  success : r.success.toNat = posts.countP fun post => post.outcome = .answered 200
  /-- and that the others failed. -/
  errors : r.errors = config.load.totalRequests - r.success
  /-- There are latency figures unless there were no requests, -/
  latency_eq_none : r.latency = none ↔ config.load.totalRequests = 0
  /-- and they are those of all requests. -/
  latency_count : ∀ figures, r.latency = some figures →
    figures.count = config.load.totalRequests

/-- What a load test has done at its end, whose report is made after a span
of time. -/
structure ExactlyOnce {σ : Type} (config : Config) (elapsed : Calendar.Span)
    (history : History) (p : Pool σ) : Prop where
  /-- Every request was posted once. -/
  posted : (p.shared.posts.map fun post => post.request.toNat).Perm
    (List.range' 1 config.load.totalRequests.toNat)
  /-- Every worker posted its requests in ascending order. -/
  ascending : ∀ id < config.load.workers.toNat,
    ((p.shared.posts.filter fun post => post.worker = id).map Post.request).reverse.Pairwise
      (· < ·)
  /-- Every worker took one stop signal. -/
  stops : ∀ id < config.load.workers.toNat, history.count (id, .take .shutdown) = 1
  /-- Nothing waits and nothing is unfinished. -/
  drained : p.shared.queue = ⟨[], 0⟩
  /-- Joining the workers yields the number of requests. -/
  joined : p.processed = config.load.totalRequests.toNat
  /-- A report is made, unless checked arithmetic cannot place its percentiles, -/
  reported : ∀ arithmetic, (∃ r, report arithmetic config elapsed p = .ok r) ↔
    arithmetic.Places config.load.totalRequests.toNat
  /-- and it accounts for all posts. -/
  accounts : ∀ arithmetic r, report arithmetic config elapsed p = .ok r →
    Accounts config p.shared.posts r

/-- A post succeeds when it is answered with the wanted status. -/
theorem successes_eq_countP (posts : List Post) :
    successes posts = posts.countP fun post => post.outcome = .answered 200 := by
  apply List.countP_congr
  intro post _
  cases post.outcome <;> simp [Outcome.isSuccess, Outcome.successStatus]

variable {σ : Type} [WordSource σ] {config : Config} {streams : Nat → σ} {history : History}
  {p : Pool σ}

theorem settings_stocked (config : Config) : (settings config).generator.tables.Stocked :=
  Tables.standard_stocked

/-- A load test that has ended has drained its queue. -/
theorem drained (run : Pool.Run (settings config) (initial config streams) history p)
    (ended : p.hasEnded = true) :
    Pool.Drained config.load.workers.toNat
      (Queue.seeded config.load.totalRequests config.load.workers.toNat) .empty [] p :=
  run.drained (settings_stocked config) (by simp [Queue.seeded]) ended

theorem stopped (run : Pool.Run (settings config) (initial config streams) history p)
    (ended : p.hasEnded = true) : ∀ w ∈ p.workers, w.hasStopped = true :=
  run.stopped (settings_stocked config) ended

omit [WordSource σ] in
theorem fresh_worker {id : Nat} (inside : id < config.load.workers.toNat) :
    (initial config streams).workers[id]? = some (.fresh (streams id)) := by
  simp [initial, Pool.start, inside]

theorem exists_worker (run : Pool.Run (settings config) (initial config streams) history p)
    {id : Nat} (inside : id < config.load.workers.toNat) :
    ∃ me, p.workers[id]? = some me := by
  have number := run.length_workers
  have within : id < p.workers.length := by
    rw [number, initial, Pool.length_workers_start]
    exact inside
  exact ⟨_, List.getElem?_eq_getElem within⟩

theorem posts_ascending
    (run : Pool.Run (settings config) (initial config streams) history p) {id : Nat}
    (inside : id < config.load.workers.toNat) :
    ((p.shared.posts.filter fun post => post.worker = id).map Post.request).reverse.Pairwise
      (· < ·) := by
  rcases exists_worker run inside with ⟨me, found⟩
  have order := run.passedBy_sublist id .posted (fresh_worker inside) found
  have all : (requestsIn (initial config streams).shared.queue.items).Pairwise (· < ·) := by
    rw [initial, Pool.shared_start, Queue.requestsIn_seeded]
    exact Queue.requestsIn_requests_pairwise _
  have listed := run.postsBy id
  rw [initial, Pool.shared_start] at listed
  simp only [List.filter_nil, List.map_nil, List.append_nil] at listed
  rw [listed]
  exact (all.sublist order).sublist (List.sublist_append_left _ _)

theorem stops_taken (run : Pool.Run (settings config) (initial config streams) history p)
    (ended : p.hasEnded = true) {id : Nat} (inside : id < config.load.workers.toNat) :
    history.count (id, .take .shutdown) = 1 := by
  rcases exists_worker run inside with ⟨me, found⟩
  have taken := run.stops_taken (fresh_worker inside) found
  rw [stopped run ended me (List.mem_of_getElem? found)] at taken
  simpa [Worker.hasStopped, Worker.fresh] using taken.symm

theorem success_eq_countP
    (run : Pool.Run (settings config) (initial config streams) history p)
    (ended : p.hasEnded = true) :
    p.shared.collector.success =
      p.shared.posts.countP fun post => post.outcome = .answered 200 := by
  have account := run.successes
  have pending : p.tally (fun w => w.holdsSuccess.toNat) = 0 := by
    apply Pool.tally_eq_zero
    intro w member
    have halted := Worker.hasStopped_iff.mp (stopped run ended w member)
    simp [Worker.holdsSuccess, halted]
  have fresh : (initial config streams).tally (fun w => w.holdsSuccess.toNat) = 0 :=
    Pool.tally_start _ _ _ _ _ fun _ => rfl
  rw [pending, fresh, initial, Pool.shared_start] at account
  rw [← successes_eq_countP]
  simpa [Collector.empty, ReservationLoad.successes] using account

/-! ## The whole load test -/

section Whole

variable (some : 0 < config.load.workers)
  (run : Pool.Run (settings config) (initial config streams) history p)
  (ended : p.hasEnded = true)

include some run ended

theorem posts_perm :
    (p.shared.posts.map fun post => post.request.toNat).Perm
      (List.range' 1 config.load.totalRequests.toNat) := by
  rcases (drained run ended).posted with ⟨new, added, requests⟩
  rw [Queue.requestsIn_upToStops_seeded _ (UInt64.lt_iff_toNat_lt.mp some)] at requests
  have numbers := requests.map UInt64.toNat
  rw [Queue.map_toNat_requestsIn_requests, List.map_map] at numbers
  rw [added, List.append_nil]
  exact numbers

theorem queue_drained : p.shared.queue = ⟨[], 0⟩ := by
  have positive : 0 < config.load.workers.toNat := UInt64.lt_iff_toNat_lt.mp some
  have finished := (drained run ended).finished
  rw [Queue.length_requestsIn_upToStops_seeded _ positive] at finished
  apply Queue.ext
  · rw [(drained run ended).remaining, Queue.afterStops_seeded _ positive]
  · simpa [Queue.seeded] using finished

theorem processed_eq : p.processed = config.load.totalRequests.toNat := by
  rw [(drained run ended).joined]
  exact Queue.length_requestsIn_upToStops_seeded _ (UInt64.lt_iff_toNat_lt.mp some)

/-- There is a sample for every request, -/
theorem length_samples :
    p.shared.collector.samples.length = config.load.totalRequests.toNat := by
  rcases (drained run ended).sampled with ⟨new, added, length⟩
  rw [added, Collector.empty, List.append_nil, length]
  exact Queue.length_requestsIn_upToStops_seeded _ (UInt64.lt_iff_toNat_lt.mp some)

/-- and each of them is a success or an error. -/
theorem outcomes_eq :
    p.shared.collector.success + p.shared.collector.errors =
      config.load.totalRequests.toNat := by
  rw [(drained run ended).outcomes,
    Queue.length_requestsIn_upToStops_seeded _ (UInt64.lt_iff_toNat_lt.mp some)]
  simp [Collector.empty]

section Reports

variable {arithmetic : Arithmetic} {elapsed : Calendar.Span} {r : Report}

theorem exists_report_iff : (∃ r, report arithmetic config elapsed p = .ok r) ↔
    arithmetic.Places config.load.totalRequests.toNat := by
  have number := length_samples some run ended
  rw [← number]
  apply Collector.exists_summarize_iff
  rw [number]
  exact config.load.totalRequests.toNat_lt

variable (made : report arithmetic config elapsed p = .ok r)

include made

theorem toNat_success_report : r.success.toNat = p.shared.collector.success := by
  have whole := outcomes_eq some run ended
  have bound := config.load.totalRequests.toNat_lt
  rw [(Collector.eq_of_summarize made).2]
  exact UInt64.toNat_ofNat_of_lt' (Nat.lt_of_le_of_lt (by omega) bound)

theorem errors_report : r.errors = config.load.totalRequests - r.success := by
  -- Words wrap around, but samples and requests are the same number.
  have whole : config.load.totalRequests =
      UInt64.ofNat p.shared.collector.errors + UInt64.ofNat p.shared.collector.success := by
    rw [← UInt64.ofNat_add, Nat.add_comm, outcomes_eq some run ended, UInt64.ofNat_toNat]
  rw [(Collector.eq_of_summarize made).2]
  simp only [Collector.reportWith]
  rw [whole, UInt64.add_sub_cancel]

theorem latency_report_eq_none_iff : r.latency = none ↔ config.load.totalRequests = 0 := by
  rw [Collector.latency_eq_none_iff made, ← List.length_eq_zero_iff,
    length_samples some run ended]
  exact UInt64.toNat_inj (b := 0)

theorem count_latency_report {figures : LatencySummary} (summed : r.latency = .some figures) :
    figures.count = config.load.totalRequests := by
  rw [Collector.count_latency made summed, length_samples some run ended, UInt64.ofNat_toNat]

theorem accounts_report : Accounts config p.shared.posts r where
  total := by
    rw [(Collector.eq_of_summarize made).2]
    rfl
  success := by
    rw [toNat_success_report some run ended made, success_eq_countP run ended]
  errors := errors_report some run ended made
  latency_eq_none := latency_report_eq_none_iff some run ended made
  latency_count _ summed := count_latency_report some run ended made summed

end Reports

end Whole

/-- Whatever the schedule and the answers of the transport, a load test with
workers sends every request exactly once and reports on all of them. -/
theorem exactly_once (config : Config) (some : 0 < config.load.workers)
    (streams : Nat → σ) (run : Pool.Run (settings config) (initial config streams) history p)
    (ended : p.hasEnded = true) (elapsed : Calendar.Span) :
    ExactlyOnce config elapsed history p where
  posted := posts_perm some run ended
  ascending _ inside := posts_ascending run inside
  stops _ inside := stops_taken run ended inside
  drained := queue_drained some run ended
  joined := processed_eq some run ended
  reported _ := exists_report_iff some run ended
  accounts _ _ made := accounts_report some run ended made

/-- Two workers, three requests and a transport that breaks down once. -/
theorem exactly_once_two_workers :
    let config : Config := { load := { workers := 2, totalRequests := 3 } }
    let transport : Transport :=
      ⟨"unsteady", fun before _ =>
        ⟨if before = 1 then .crashed none else .answered 200, .zero⟩⟩
    let streams : Nat → Script := fun _ => .ofList []
    let last := LoadTest.run config transport streams
    0 < config.load.workers ∧
      ∃ history, Pool.Run (settings config) (initial config streams) history last ∧
        last.hasEnded = true ∧ ExactlyOnce config ⟨1, 0⟩ history last := by
  intro config transport streams last
  have some : 0 < config.load.workers := by decide
  have reached := Pool.run_reaches (settings config) transport (initial config streams)
  rcases Pool.Run.of_reaches reached with ⟨history, run⟩
  have ended : last.hasEnded = true :=
    (Pool.supplied_seeded streams _ _ .empty []).run_hasEnded (settings config) transport
  exact ⟨some, history, run, ended, exactly_once config some streams run ended ⟨1, 0⟩⟩

end ReservationLoad.LoadTest

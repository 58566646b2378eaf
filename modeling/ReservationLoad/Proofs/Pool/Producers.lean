import Mathlib.Algebra.Order.Group.Nat
import ReservationLoad.Proofs.Pool.StopSignals

/-!
# Pools fed by producers

Producers put items into the queue while workers take them out.  A producer
counts a request among the unfinished ones first and sends it afterwards, and
workers may take, acknowledge or die over other requests in between.  The
books of such a pool (`Books`) follow every request from the moment it is
counted; they are kept by every step of every producer and of every worker.
From them follows that the count of unfinished requests is exact at every
moment: it covers the requests that are counted but not sent, those that wait
and those in the hands of workers, dead ones included.
-/

namespace ReservationLoad

open Chance Work

/-- Where a producer stands in putting items. -/
inductive Producer
  /-- Between two items. -/
  | ready
  /-- Has counted an item and is about to send it. -/
  | sending (item : Item)

/-- The request that a producer has counted and not sent. -/
def Producer.request? : Producer → Option UInt64
  | .ready => none
  | .sending item => item.request?

/-- Does the producer hold such a request? -/
def Producer.holdsRequest (producer : Producer) : Bool := producer.request?.isSome

@[simp]
theorem Producer.holdsRequest_ready : Producer.ready.holdsRequest = false := rfl

theorem Producer.toNat_holdsRequest_sending (item : Item) :
    (Producer.sending item).holdsRequest.toNat = item.request?.toList.length := by
  cases item <;> rfl

/-- A pool and the producers that feed it. -/
structure FedPool (σ : Type) where
  producers : List Producer
  pool : Pool σ

/-- The pool with its queue changed. -/
def Pool.onQueue {σ : Type} (change : Queue → Queue) (p : Pool σ) : Pool σ :=
  { p with shared := { p.shared with queue := change p.shared.queue } }

namespace Pool

variable {σ : Type} (change : Queue → Queue) (p : Pool σ)

@[simp]
theorem queue_onQueue : (p.onQueue change).shared.queue = change p.shared.queue := rfl

@[simp]
theorem owing_onQueue (milestone : Milestone) :
    (p.onQueue change).owing milestone = p.owing milestone := rfl

end Pool

namespace FedPool

/-- What one of the producers or of the workers does in a step. -/
inductive Act
  | announce (item : Item)
  | send (item : Item)
  | work (worker : Nat) (deed : Deed)

/-- The requests that were counted, the latest first. -/
def announced (acts : List Act) : List UInt64 :=
  acts.filterMap fun
    | .announce item => item.request?
    | .send _ => none
    | .work _ _ => none

/-- The requests that were sent, the latest first. -/
def sent (acts : List Act) : List UInt64 :=
  acts.filterMap fun
    | .announce _ => none
    | .send item => item.request?
    | .work _ _ => none

/-- What the workers did, the latest deed first. -/
def worked (acts : List Act) : History :=
  acts.filterMap fun
    | .announce _ => none
    | .send _ => none
    | .work worker deed => some (worker, deed)

@[simp]
theorem announced_announce (item : Item) (acts : List Act) :
    announced (.announce item :: acts) = item.request?.toList ++ announced acts := by
  cases item <;> rfl

@[simp]
theorem announced_send (item : Item) (acts : List Act) :
    announced (.send item :: acts) = announced acts := rfl

@[simp]
theorem announced_work (worker : Nat) (deed : Deed) (acts : List Act) :
    announced (.work worker deed :: acts) = announced acts := rfl

@[simp]
theorem sent_announce (item : Item) (acts : List Act) :
    sent (.announce item :: acts) = sent acts := rfl

@[simp]
theorem sent_send (item : Item) (acts : List Act) :
    sent (.send item :: acts) = item.request?.toList ++ sent acts := by
  cases item <;> rfl

@[simp]
theorem sent_work (worker : Nat) (deed : Deed) (acts : List Act) :
    sent (.work worker deed :: acts) = sent acts := rfl

@[simp]
theorem worked_announce (item : Item) (acts : List Act) :
    worked (.announce item :: acts) = worked acts := rfl

@[simp]
theorem worked_send (item : Item) (acts : List Act) :
    worked (.send item :: acts) = worked acts := rfl

@[simp]
theorem worked_work (worker : Nat) (deed : Deed) (acts : List Act) :
    worked (.work worker deed :: acts) = (worker, deed) :: worked acts := rfl

variable {σ : Type}

/-- The producers, all of them between two items, and a pool of fresh workers
at an empty queue. -/
def start (producers : Nat) (streams : Nat → σ) (workers : Nat) : FedPool σ where
  producers := List.replicate producers .ready
  pool := .start streams workers .empty .empty []

/-- The number of requests that are counted and not sent. -/
def sending (f : FedPool σ) : Nat := f.producers.countP Producer.holdsRequest

/-- The requests that wait in the queue. -/
def waiting (f : FedPool σ) : List UInt64 := requestsIn f.pool.shared.queue.items

variable [WordSource σ]

/-- Any number of steps of producers and workers, in any order: a producer
may count any item when it is ready, then sends it, and the workers make the
steps of their pool. -/
inductive Run (settings : PoolSettings) (f : FedPool σ) : List Act → FedPool σ → Prop
  | refl : Run settings f [] f
  | announce {g : FedPool σ} {acts : List Act} {id : Nat} (before : Run settings f acts g)
      (ready : g.producers[id]? = some .ready) (item : Item) :
      Run settings f (.announce item :: acts)
        ⟨g.producers.set id (.sending item), g.pool.onQueue fun queue => queue.announce item⟩
  | send {g : FedPool σ} {acts : List Act} {id : Nat} {item : Item}
      (before : Run settings f acts g)
      (sending : g.producers[id]? = some (.sending item)) :
      Run settings f (.send item :: acts)
        ⟨g.producers.set id .ready, g.pool.onQueue fun queue => queue.send item⟩
  | work {g : FedPool σ} {acts : List Act} {id : Nat} {deed : Deed}
      {answer : Reservation → Reply} {p : Pool σ} (before : Run settings f acts g)
      (next : g.pool.deed? settings id = some deed)
      (step : g.pool.stepWith? settings answer id = some p) :
      Run settings f (.work id deed :: acts) ⟨g.producers, p⟩

/-- A producer that is not interrupted puts an item. -/
theorem Run.put {settings : PoolSettings} {f g : FedPool σ} {acts : List Act} {id : Nat}
    (before : Run settings f acts g) (ready : g.producers[id]? = some .ready) (item : Item) :
    Run settings f (.send item :: .announce item :: acts)
      ⟨g.producers, g.pool.onQueue fun queue => queue.put item⟩ := by
  rcases List.getElem?_eq_some_iff.mp ready with ⟨inside, same⟩
  have sending : (g.producers.set id (.sending item))[id]? = some (.sending item) :=
    List.getElem?_set_self inside
  have done := (before.announce ready item).send sending
  rw [List.set_set, ← same, List.set_getElem_self] at done
  exact done

/-! ## The books -/

/-- What holds of every request from the moment it is counted. -/
structure Books (acts : List Act) (f : FedPool σ) : Prop where
  /-- A request that was counted is sent or about to be. -/
  announced : (announced acts).length = (sent acts).length + f.sending
  /-- A request that was sent passed a milestone, is in hand or waits. -/
  requests : ∀ milestone,
    f.pool.owing milestone + f.waiting + History.passed milestone (worked acts) =
      (sent acts : Multiset UInt64)
  /-- A request that was counted is unfinished or acknowledged. -/
  unfinished : f.pool.shared.queue.unfinished +
      (History.passed .acknowledged (worked acts)).length = (FedPool.announced acts).length
  /-- A request that was recorded is a sample -/
  samples : f.pool.shared.collector.samples.length =
    (History.passed .recorded (worked acts)).length
  /-- with an outcome. -/
  outcomes : f.pool.shared.collector.success + f.pool.shared.collector.errors =
    (History.passed .recorded (worked acts)).length
  /-- A request that was counted off was so by one worker. -/
  processed : f.pool.tally Worker.processed =
    (History.passed .counted (worked acts)).length

omit [WordSource σ] in
theorem books_start (producers : Nat) (streams : Nat → σ) (workers : Nat) :
    Books [] (start producers streams workers) where
  announced := by
    simp [FedPool.announced, sent, sending, start, Producer.holdsRequest, Producer.request?,
      List.countP_replicate]
  requests milestone := by
    simp [start, waiting, worked, sent, Queue.empty]
  unfinished := rfl
  samples := rfl
  outcomes := rfl
  processed := Pool.tally_start _ _ _ _ _ fun _ => rfl

namespace Books

variable {settings : PoolSettings} {acts : List Act} {producers : List Producer}
  {p q : Pool σ} {id : Nat}

omit [WordSource σ] in
/-- A request that is counted is unfinished and about to be sent. -/
theorem announce (books : Books acts ⟨producers, p⟩) (ready : producers[id]? = some .ready)
    (item : Item) :
    Books (.announce item :: acts)
      ⟨producers.set id (.sending item), p.onQueue fun queue => queue.announce item⟩ where
  announced := by
    have exchanged := countP_set_add Producer.holdsRequest ready (.sending item)
    rw [Producer.toNat_holdsRequest_sending] at exchanged
    have before := books.announced
    simp only [sending, Producer.holdsRequest_ready, Bool.toNat_false] at before exchanged ⊢
    simp only [announced_announce, sent_announce, List.length_append]
    omega
  requests milestone := by
    simpa [waiting] using books.requests milestone
  unfinished := by
    have before := books.unfinished
    simp only [announced_announce, List.length_append, worked_announce, Pool.queue_onQueue,
      Queue.unfinished_announce] at before ⊢
    omega
  samples := books.samples
  outcomes := books.outcomes
  processed := books.processed

omit [WordSource σ] in
/-- A request that is sent waits. -/
theorem send (books : Books acts ⟨producers, p⟩) {item : Item}
    (sending : producers[id]? = some (.sending item)) :
    Books (.send item :: acts)
      ⟨producers.set id .ready, p.onQueue fun queue => queue.send item⟩ where
  announced := by
    have exchanged := countP_set_add Producer.holdsRequest sending .ready
    rw [Producer.toNat_holdsRequest_sending] at exchanged
    have before := books.announced
    simp only [FedPool.sending, Producer.holdsRequest_ready, Bool.toNat_false]
      at before exchanged ⊢
    simp only [announced_send, sent_send, List.length_append]
    omega
  requests milestone := by
    have before := books.requests milestone
    simp only [waiting, Pool.owing_onQueue, Pool.queue_onQueue, Queue.items_send,
      requestsIn_append, requestsIn_singleton, worked_send, sent_send, ← Multiset.coe_add]
      at before ⊢
    rw [← before]
    abel
  unfinished := by
    simpa using books.unfinished
  samples := books.samples
  outcomes := books.outcomes
  processed := books.processed

omit [WordSource σ] in
/-- The place of every counted request, in numbers. -/
theorem card_requests {f : FedPool σ} (books : Books acts f) (milestone : Milestone) :
    (FedPool.announced acts).length =
      f.sending + f.waiting.length + (f.pool.owing milestone).card +
        (History.passed milestone (worked acts)).length := by
  have balance := congrArg Multiset.card (books.requests milestone)
  simp only [Multiset.card_add, Multiset.coe_card] at balance
  have counted := books.announced
  omega

/-- A worker's step leaves everything accounted for. -/
theorem work (books : Books acts ⟨producers, p⟩) {deed : Deed} {answer : Reservation → Reply}
    (next : p.deed? settings id = some deed)
    (step : p.stepWith? settings answer id = some q) :
    Books (.work id deed :: acts) ⟨producers, q⟩ := by
  rcases Pool.moves_of_deed? next step with ⟨me, me', shared', found, move, equal⟩
  refine ⟨books.announced, ?requests, ?unfinished, ?samples, ?outcomes, ?processed⟩
  case requests =>
    intro milestone
    have before := books.requests milestone
    have balance := Pool.balance_step
      (fun w => (w.stage.owing milestone : Multiset UInt64))
      (fun shared => (requestsIn shared.queue.items : Multiset UInt64))
      (fun _ deed => ((deed.passed? milestone).toList : Multiset UInt64))
      (fun move => Pool.requests_balance move milestone) next step
    rw [worked_work, History.passed_cons, ← Multiset.coe_add, ← add_assoc]
    exact (congrArg (· + _) balance).trans before
  case unfinished =>
    have before := books.unfinished
    -- The request in hand is counted, so the count cannot stop at zero.
    have counted := books.card_requests .acknowledged
    have owed : (me.stage.owing .acknowledged).length ≤ (p.owing .acknowledged).card := by
      simpa using Multiset.card_le_card
        (Pool.owing_le (List.mem_of_getElem? found) .acknowledged)
    have taken := move.unfinished fun owing => by
      have some : 0 < (me.stage.owing .acknowledged).length := List.length_pos_iff.mpr owing
      simp only at before counted
      omega
    rw [worked_work, History.passed_cons, List.length_append, announced_work, ← before, equal,
      ← taken]
    simp only
    omega
  case samples =>
    rw [worked_work, History.passed_cons, List.length_append, ← books.samples, equal]
    exact move.samples
  case outcomes =>
    rw [worked_work, History.passed_cons, List.length_append, ← books.outcomes, equal]
    exact move.outcomes
  case processed =>
    have exchanged := sum_map_set Worker.processed found me'
    have counted := move.processed
    have before := books.processed
    rw [worked_work, History.passed_cons, List.length_append, ← before, equal]
    simp only [Pool.tally]
    omega

end Books

/-- The books are kept by every run. -/
theorem Run.books {settings : PoolSettings} {producers : Nat} {streams : Nat → σ}
    {workers : Nat} {acts : List Act} {f : FedPool σ}
    (run : Run settings (start producers streams workers) acts f) : Books acts f := by
  induction run with
  | refl => exact books_start producers streams workers
  | announce _ ready item ih => exact ih.announce ready item
  | send _ sending ih => exact ih.send sending
  | work _ next step ih => exact ih.work next step

end FedPool

end ReservationLoad

import ReservationLoad.Proofs.Pool.Producers

/-!
# The accounts of a fed pool

The books of a pool with its producers, read as numbers of workers: which of
them hold a request that has not passed a milestone, which stand right before
it, and which died.  At every moment of every run the count of unfinished
requests equals what is announced, waiting or in hand, so an acknowledgement
always finds something to take off.
-/

namespace ReservationLoad

open Chance Work

namespace Worker

variable {σ : Type}

/-- Does the worker, alive or dead, hold a request that has not passed a
milestone? -/
def isBefore (milestone : Milestone) (w : Worker σ) : Bool :=
  !(w.stage.owing milestone).isEmpty

/-- Is a milestone the next one for the request in the worker's hands? -/
def faces (milestone : Milestone) (w : Worker σ) : Bool :=
  match w.stage.inHand? with
  | none => false
  | some (_, passed) => passed = milestone.rank

/-- Is the worker still about to lead its request past a milestone? -/
def isBusyBefore (milestone : Milestone) (w : Worker σ) : Bool :=
  w.isBefore milestone && !w.hasDied

theorem length_owing (milestone : Milestone) (w : Worker σ) :
    (w.stage.owing milestone).length = (w.isBefore milestone).toNat := by
  unfold isBefore Stage.owing
  cases w.stage.inHand? with
  | none => rfl
  | some held => by_cases ahead : held.2 ≤ milestone.rank <;> simp [ahead]

/-- Before the later of two milestones are those before the earlier one and
those between the two. -/
theorem isBefore_next {milestone next : Milestone} (follows : next.rank = milestone.rank + 1)
    (w : Worker σ) :
    (w.isBefore next).toNat = (w.isBefore milestone).toNat + (w.faces next).toNat := by
  rw [← length_owing, ← length_owing]
  unfold faces Stage.owing
  cases w.stage.inHand? with
  | none => rfl
  | some held =>
      simp only [follows]
      rcases Nat.lt_trichotomy held.2 (milestone.rank + 1) with less | equal | greater
      · simp [Nat.le_of_lt less, Nat.le_of_lt_succ less, Nat.ne_of_lt less]
      · simp [equal]
      · simp [Nat.not_le.mpr greater, Nat.not_le.mpr (Nat.lt_of_succ_lt greater),
          Nat.ne_of_gt greater]

theorem isBefore_of_faces {milestone : Milestone} {w : Worker σ}
    (facing : w.faces milestone = true) : w.isBefore milestone = true := by
  unfold faces at facing
  unfold isBefore Stage.owing
  cases held : w.stage.inHand? with
  | none => simp [held] at facing
  | some holding =>
      simp only [held, decide_eq_true_eq] at facing
      simp [facing]

/-- Those before a milestone are dead or still busy. -/
theorem isBefore_split (milestone : Milestone) (w : Worker σ) :
    (w.isBefore milestone).toNat = w.hasDied.toNat + (w.isBusyBefore milestone).toNat := by
  cases died : w.hasDied with
  | false => simp [isBusyBefore, died]
  | true =>
      have holding : w.isBefore milestone = true := by
        unfold hasDied at died
        unfold isBefore Stage.owing
        cases stage : w.stage <;> simp_all [Stage.inHand?]
      simp [isBusyBefore, died, holding]

end Worker

namespace Pool

variable {σ : Type}

theorem card_owing (milestone : Milestone) (p : Pool σ) :
    (p.owing milestone).card = p.workers.countP (Worker.isBefore milestone) := by
  rw [← sum_map_toNat, owing, tally, ← Multiset.cardHom_apply, map_list_sum, List.map_map]
  refine congrArg List.sum (List.map_congr_left fun w _ => ?_)
  exact w.length_owing milestone

/-- A condition that splits into two is met as often as both together. -/
theorem countP_split {whole first second : Worker σ → Bool}
    (split : ∀ w, (whole w).toNat = (first w).toNat + (second w).toNat) (p : Pool σ) :
    p.workers.countP whole = p.workers.countP first + p.workers.countP second := by
  rw [← sum_map_toNat, ← sum_map_toNat, ← sum_map_toNat, ← List.sum_map_add]
  exact congrArg List.sum (List.map_congr_left fun w _ => split w)

end Pool

namespace FedPool

variable {σ : Type} {acts : List Act} {f : FedPool σ}

/-- The number of acknowledgements that were made. -/
def acknowledgements (acts : List Act) : Nat :=
  (History.passed .acknowledged (worked acts)).length

/-- The requests that passed a milestone but not the next one are in the hands
of the workers between the two. -/
theorem Books.passed_next (books : Books acts f) {milestone next : Milestone}
    (follows : next.rank = milestone.rank + 1) :
    (History.passed milestone (worked acts)).length =
      (History.passed next (worked acts)).length +
        f.pool.workers.countP (Worker.faces next) := by
  have earlier := books.card_requests milestone
  have later := books.card_requests next
  have between := Pool.countP_split (Worker.isBefore_next follows) f.pool
  rw [Pool.card_owing] at earlier later
  omega

/-- The accounts of a fed pool, in numbers. -/
structure Accounted (acts : List Act) (f : FedPool σ) : Prop where
  /-- A request is unfinished from the moment it is announced until it is
  acknowledged: about to be sent, waiting, or in the hands of a worker, be it
  alive or dead. -/
  unfinished : f.pool.shared.queue.unfinished =
    f.sending + f.waiting.length + f.pool.workers.countP (Worker.isBefore .acknowledged)
  /-- Whoever is about to acknowledge finds a count above zero, -/
  positive : ∀ w ∈ f.pool.workers, w.faces .acknowledged = true →
    0 < f.pool.shared.queue.unfinished
  /-- so that no acknowledgement is lost. -/
  acknowledged :
    (announced acts).length = f.pool.shared.queue.unfinished + acknowledgements acts
  /-- When the count is at zero, nothing waits or is worked on. -/
  idle : f.pool.shared.queue.unfinished = 0 → f.sending = 0 ∧ f.waiting = [] ∧
    ∀ w ∈ f.pool.workers, w.isBefore .acknowledged = false
  /-- Every sample is a success or an error, -/
  outcomes : f.pool.shared.collector.success + f.pool.shared.collector.errors =
    f.pool.shared.collector.samples.length
  /-- and is acknowledged unless its worker is just about to do so. -/
  samples : f.pool.shared.collector.samples.length =
    acknowledgements acts + f.pool.workers.countP (Worker.faces .acknowledged)
  /-- Every acknowledgement is counted unless its worker is just about to. -/
  processed : acknowledgements acts =
    f.pool.tally Worker.processed + f.pool.workers.countP (Worker.faces .counted)
  /-- An announced request is about to be sent, waits, was lost with a worker
  that died over it, is worked on, or is a sample. -/
  requests : (announced acts).length =
    f.sending + f.waiting.length + f.pool.workers.countP Worker.hasDied +
      f.pool.workers.countP (Worker.isBusyBefore .recorded) +
      f.pool.shared.collector.samples.length

/-- The count of unfinished requests is exact. -/
theorem Books.unfinished_exact (books : Books acts f) :
    f.pool.shared.queue.unfinished =
      f.sending + f.waiting.length +
        f.pool.workers.countP (Worker.isBefore .acknowledged) := by
  have requests := books.card_requests .acknowledged
  have unfinished := books.unfinished
  rw [Pool.card_owing] at requests
  omega

/-- Accounts follow from books. -/
theorem Books.accounted (books : Books acts f) : Accounted acts f where
  unfinished := books.unfinished_exact
  positive := by
    intro w member facing
    have holder : 0 < f.pool.workers.countP (Worker.isBefore .acknowledged) :=
      List.countP_pos_iff.mpr ⟨w, member, Worker.isBefore_of_faces facing⟩
    have exact := books.unfinished_exact
    omega
  acknowledged := books.unfinished.symm
  idle := by
    intro zero
    have exact := books.unfinished_exact
    refine ⟨by omega, List.length_eq_zero_iff.mp (by omega), ?_⟩
    intro w member
    have nobody : f.pool.workers.countP (Worker.isBefore .acknowledged) = 0 := by omega
    simpa using List.countP_eq_zero.mp nobody w member
  outcomes := by
    rw [books.outcomes, books.samples]
  samples := by
    rw [books.samples, acknowledgements]
    exact books.passed_next rfl
  processed := by
    rw [books.processed]
    exact books.passed_next rfl
  requests := by
    have requests := books.card_requests .recorded
    have split := Pool.countP_split (Worker.isBefore_split .recorded) f.pool
    have samples := books.samples
    rw [Pool.card_owing] at requests
    omega

/-- In every state that producers and workers can reach together, in whatever
order they make their steps, whatever the posts come to and whether or not
there is anything in the tables, the accounts are in order. -/
theorem run_accounted [WordSource σ] (settings : PoolSettings) (producers : Nat)
    (streams : Nat → σ) (workers : Nat) (acts : List Act) (f : FedPool σ)
    (run : Run settings (start producers streams workers) acts f) : Accounted acts f :=
  run.books.accounted

/-- Two producers and two workers over empty tables: one request is lost with
the worker that takes it, the other one is counted and not yet sent, and both
stay on the count. -/
theorem run_accounted_empty_tables :
    let settings : PoolSettings := ⟨⟨⟨[], [], [], []⟩, none⟩, 100⟩
    let streams : Nat → Script := fun _ => .ofList []
    let acts : List Act :=
      [.work 1 (.die 7), .announce (.request 8), .work 1 (.take (.request 7)),
        .send (.request 7), .announce (.request 7)]
    let f : FedPool Script :=
      ⟨[.ready, .sending (.request 8)],
        ⟨[.fresh (streams 0), ⟨streams 1, 0, .dead 7 DrawFault.emptyTable.message⟩],
          ⟨⟨[], 2⟩, .empty, [], []⟩⟩⟩
    Run settings (start 2 streams 2) acts f ∧ Accounted acts f := by
  intro settings streams acts f
  let answer := (Transport.mock 200 0).post 0
  let fresh : FedPool Script := start 2 streams 2
  let queued : Pool Script := ⟨fresh.pool.workers, ⟨⟨[.request 7], 1⟩, .empty, [], []⟩⟩
  let taken : Pool Script :=
    ⟨[.fresh (streams 0), ⟨streams 1, 0, .composing 7⟩], ⟨⟨[], 1⟩, .empty, [], []⟩⟩
  have first : fresh.producers[0]? = some .ready := rfl
  have second : fresh.producers[1]? = some .ready := rfl
  have takes : queued.stepWith? settings answer 1 = some taken := rfl
  have dies : (taken.onQueue fun queue => queue.announce (.request 8)).stepWith?
      settings answer 1 = some f.pool := rfl
  have put : Run settings fresh _ ⟨fresh.producers, queued⟩ :=
    Run.refl.put first (.request 7)
  have run : Run settings fresh acts f :=
    ((put.work rfl takes).announce second (.request 8)).work rfl dies
  exact ⟨run, run_accounted settings 2 streams 2 acts f run⟩

end FedPool

end ReservationLoad

import ReservationLoad.Proofs.Pool.StopSignals

/-!
# Progress and termination of pools

A worker that has not ended can always move unless it waits at an empty
queue, and every step makes `stepBound` smaller.  A pool whose queue holds a
stop signal for each of its workers never waits, so it comes to its end under
every schedule and whatever the transport answers.
-/

namespace ReservationLoad

open Chance Work

/-! ## Every step leads towards the end -/

section Measure

variable {σ : Type} [WordSource σ] {settings : PoolSettings} {transport : Transport}
  {answer : Reservation → Reply} {id : Nat} {deed : Deed} {history : History}
  {me me' : Worker σ} {shared shared' : Shared} {p q : Pool σ}

/-- Taking an item is worth seven steps, and every other move is one of
them. -/
theorem Worker.Moves.stepsLeft_lt
    (move : Worker.Moves settings answer id deed me shared me' shared') :
    Pool.stepsLeft me' + 7 * shared'.queue.items.length <
      Pool.stepsLeft me + 7 * shared.queue.items.length := by
  cases move with
  | takeRequest front =>
      simp only [Pool.stepsLeft, front, List.length_cons]
      omega
  | takeShutdown front =>
      simp only [Pool.stepsLeft, front, List.length_cons]
      omega
  | _ => simp [Pool.stepsLeft, Queue.acknowledge]

namespace Pool

omit [WordSource σ] in
theorem stepBound_eq (p : Pool σ) :
    p.stepBound = 7 * p.shared.queue.items.length + p.tally stepsLeft := rfl

theorem stepBound_lt (step : p.stepWith? settings answer id = some q) :
    q.stepBound < p.stepBound := by
  rcases moves_of_stepWith? step with ⟨deed, me, me', shared', found, _, move, rfl⟩
  have exchanged := sum_map_set stepsLeft found me'
  have smaller := move.stepsLeft_lt
  simp only [stepBound_eq, tally]
  omega

/-- A run is no longer than the bound of its start. -/
theorem Run.length_add_stepBound_le (run : Run settings p history q) :
    history.length + q.stepBound ≤ p.stepBound := by
  induction run with
  | refl => simp
  | step _ _ step ih =>
      have smaller := stepBound_lt step
      rw [List.length_cons]
      omega

/-- No schedule goes on for ever. -/
theorem no_endless_schedule (states : Nat → Pool σ) :
    ¬ ∀ n, ∃ id answer, (states n).stepWith? settings answer id = some (states (n + 1)) := by
  intro endless
  have falling : ∀ n, n + (states n).stepBound ≤ (states 0).stepBound := by
    intro n
    induction n with
    | zero => simp
    | succ n ih =>
        rcases endless n with ⟨id, answer, step⟩
        have smaller := stepBound_lt step
        omega
  have beyond := falling ((states 0).stepBound + 1)
  omega

/-! ## The schedule of choice -/

/-- If the first worker that could move is not found, no worker can move. -/
theorem step?_eq_none_of_firstStep? {count first : Nat}
    (stuck : p.firstStep? settings transport count first = none) :
    ∀ id, first ≤ id → id < first + count → p.step? settings transport id = none := by
  induction count generalizing first with
  | zero =>
      intro id above below
      omega
  | succ count ih =>
      intro id above below
      rw [firstStep?] at stuck
      cases moved : p.step? settings transport first with
      | some q => simp [moved] at stuck
      | none =>
          simp only [moved] at stuck
          rcases Nat.eq_or_lt_of_le above with rfl | later
          · exact moved
          · exact ih stuck id later (by omega)

theorem steps_of_firstStep? {count first : Nat}
    (moved : p.firstStep? settings transport count first = some q) :
    Steps settings transport p q := by
  induction count generalizing first with
  | zero => simp [firstStep?] at moved
  | succ count ih =>
      rw [firstStep?] at moved
      cases step : p.step? settings transport first with
      | some r =>
          simp only [step, Option.some.injEq] at moved
          subst moved
          exact ⟨first, step⟩
      | none =>
          simp only [step] at moved
          exact ih moved

theorem Reaches.head {r : Pool σ} (first : Steps settings transport p q)
    (later : Reaches settings transport q r) : Reaches settings transport p r := by
  induction later with
  | refl => exact .tail (.refl p) first
  | tail _ step ih => exact .tail ih step

theorem advance_reaches (fuel : Nat) (p : Pool σ) :
    Reaches settings transport p (advance settings transport fuel p) := by
  induction fuel generalizing p with
  | zero => exact .refl p
  | succ fuel ih =>
      rw [advance]
      cases moved : p.firstStep? settings transport p.workers.length 0 with
      | some q => exact (ih q).head (steps_of_firstStep? moved)
      | none => exact .refl p

/-- With as much fuel as the bound says, the schedule of choice goes on until
nobody can move. -/
theorem advance_stuck {fuel : Nat} (enough : p.stepBound ≤ fuel) (id : Nat) :
    (advance settings transport fuel p).step? settings transport id = none := by
  induction fuel generalizing p with
  | zero =>
      cases step : p.step? settings transport id with
      | none => simpa [advance] using step
      | some q =>
          have smaller : q.stepBound < p.stepBound := stepBound_lt step
          omega
  | succ fuel ih =>
      rw [advance]
      cases moved : p.firstStep? settings transport p.workers.length 0 with
      | some q =>
          rcases steps_of_firstStep? moved with ⟨mover, step⟩
          have smaller : q.stepBound < p.stepBound := stepBound_lt step
          exact ih (by omega)
      | none =>
          by_cases inside : id < p.workers.length
          · exact step?_eq_none_of_firstStep? moved id (Nat.zero_le id) (by omega)
          · have absent : p.workers[id]? = none := by
              simpa using inside
            simp [step?, stepWith?, absent]

/-- The schedule of choice reaches its result, -/
theorem run_reaches (settings : PoolSettings) (transport : Transport) (p : Pool σ) :
    Reaches settings transport p (p.run settings transport) :=
  advance_reaches _ p

/-- and there nobody can move. -/
theorem run_stuck (settings : PoolSettings) (transport : Transport) (p : Pool σ) (id : Nat) :
    (p.run settings transport).step? settings transport id = none :=
  advance_stuck (Nat.le_refl _) id

end Pool

end Measure

/-! ## Nobody waits for ever -/

section Supply

variable {σ : Type} [WordSource σ] {settings : PoolSettings} {transport : Transport}
  {history : History} {p q : Pool σ}

/-- A worker that has not ended can move, whatever the answer to its post
would be, unless it is about to take an item and there is none. -/
theorem Worker.exists_step? {me : Worker σ} {shared : Shared}
    (going : me.hasEnded = false) (fed : me.stage = .idle → shared.queue.items ≠ [])
    (answer : Reservation → Reply) (id : Nat) :
    ∃ me' shared', me.step? settings answer id shared = some (me', shared') := by
  rcases me with ⟨stream, processed, stage⟩
  cases stage with
  | idle =>
      cases waiting : shared.queue.items with
      | nil => exact absurd waiting (fed rfl)
      | cons item later =>
          cases item with
          | request request => exact ⟨_, _, (Worker.Moves.takeRequest waiting).step?⟩
          | shutdown => exact ⟨_, _, (Worker.Moves.takeShutdown waiting).step?⟩
  | composing request =>
      cases drawn : settings.generator.drawFor request stream with
      | ok result => exact ⟨_, _, (Worker.Moves.compose drawn).step?⟩
      | error fault => exact ⟨_, _, (Worker.Moves.die drawn).step?⟩
  | posting request reservation => exact ⟨_, _, rfl⟩
  | reporting request reservation reply => exact ⟨_, _, rfl⟩
  | recording request reply => exact ⟨_, _, rfl⟩
  | acknowledging request => exact ⟨_, _, rfl⟩
  | counting request => exact ⟨_, _, rfl⟩
  | stopped => simp [Worker.hasEnded] at going
  | dead request message => simp [Worker.hasEnded] at going

namespace Pool

/-- The queue still holds a stop signal for every worker that has not
stopped. -/
def Supplied (p : Pool σ) : Prop :=
  p.workers.length ≤ p.workers.countP Worker.hasStopped + stopsIn p.shared.queue.items

theorem Run.supplied (run : Run settings p history q) (supplied : p.Supplied) :
    q.Supplied := by
  unfold Supplied
  rw [run.stops, run.length_workers]
  exact supplied

omit [WordSource σ] in
/-- In a supplied pool something waits as long as anybody has not stopped. -/
theorem Supplied.items_ne_nil (supplied : p.Supplied) {me : Worker σ}
    (member : me ∈ p.workers) (going : me.hasStopped = false) :
    p.shared.queue.items ≠ [] := by
  intro empty
  have all : p.workers.countP Worker.hasStopped = p.workers.length := by
    have most := List.countP_le_length (p := Worker.hasStopped) (l := p.workers)
    simp only [Supplied, empty, stopsIn_nil] at supplied
    omega
  have stopped := List.countP_eq_length.mp all me member
  rw [going] at stopped
  cases stopped

/-- Every worker that has not ended can move, whatever the answer to its post
would be. -/
def Moving (settings : PoolSettings) (p : Pool σ) : Prop :=
  ∀ (id : Nat) (me : Worker σ), p.workers[id]? = some me → me.hasEnded = false →
    ∀ answer, ∃ q, p.stepWith? settings answer id = some q

/-- Workers that are fed whenever they are idle can move. -/
theorem moving_of_fed
    (fed : ∀ me ∈ p.workers, me.stage = .idle → p.shared.queue.items ≠ []) :
    Moving settings p := by
  intro id me found going answer
  have waiting := fed me (List.mem_of_getElem? found)
  rcases Worker.exists_step? going waiting answer id with ⟨me', shared', step⟩
  exact ⟨_, stepWith?_eq_some_iff.mpr ⟨me, me', shared', found, step, rfl⟩⟩

omit [WordSource σ] in
theorem exists_going (going : p.hasEnded = false) :
    ∃ (id : Nat) (me : Worker σ), p.workers[id]? = some me ∧ me.hasEnded = false := by
  rcases List.all_eq_false.mp going with ⟨me, member, running⟩
  rcases List.mem_iff_getElem?.mp member with ⟨id, found⟩
  exact ⟨id, me, found, by simpa using running⟩

/-- As long as such a pool has not ended somebody can move. -/
theorem Moving.exists_step (moving : Moving settings p) (going : p.hasEnded = false) :
    ∃ id, ∀ answer, ∃ q, p.stepWith? settings answer id = some q := by
  rcases exists_going going with ⟨id, me, found, running⟩
  exact ⟨id, moving id me found running⟩

/-- Where nobody can move all have ended. -/
theorem Moving.hasEnded (moving : Moving settings p)
    (stuck : ∀ id, ∃ answer, p.stepWith? settings answer id = none) : p.hasEnded = true := by
  by_contra going
  rcases moving.exists_step (Bool.eq_false_iff.mpr going) with ⟨id, moves⟩
  rcases stuck id with ⟨answer, none⟩
  rcases moves answer with ⟨q, step⟩
  rw [none] at step
  cases step

/-- When workers can always move, the schedule of choice leads to the end. -/
theorem run_hasEnded_of_moving
    (moving : ∀ history q, Run settings p history q → Moving settings q)
    (transport : Transport) : (p.run settings transport).hasEnded = true := by
  rcases Run.of_reaches (run_reaches settings transport p) with ⟨history, run⟩
  exact (moving history _ run).hasEnded fun id => ⟨_, run_stuck settings transport p id⟩

theorem Supplied.moving (supplied : p.Supplied) : Moving settings p := by
  apply moving_of_fed
  intro me member idle
  exact supplied.items_ne_nil member (by simp [Worker.hasStopped, idle])

/-- The schedule of choice brings a supplied pool to its end. -/
theorem Supplied.run_hasEnded (supplied : p.Supplied) (settings : PoolSettings)
    (transport : Transport) : (p.run settings transport).hasEnded = true :=
  run_hasEnded_of_moving (fun _ _ run => (run.supplied supplied).moving) transport

omit [WordSource σ] in
theorem supplied_start (streams : Nat → σ) {workers : Nat} {queue : Queue}
    (enough : workers ≤ stopsIn queue.items) (collector : Collector) (posts : List Post) :
    (start streams workers queue collector posts).Supplied := by
  unfold Supplied
  rw [length_workers_start]
  exact Nat.le_add_left_of_le enough

omit [WordSource σ] in
/-- At the end of a pool in which nobody died all workers have stopped. -/
theorem stopped_of_hasEnded (ended : p.hasEnded = true)
    (alive : ∀ w ∈ p.workers, w.hasDied = false) : ∀ w ∈ p.workers, w.hasStopped = true := by
  intro w member
  have halted := List.all_eq_true.mp ended w member
  rw [Worker.hasEnded_eq, alive w member, Bool.or_false] at halted
  exact halted

/-! ## Pools on a seeded queue -/

omit [WordSource σ] in
/-- What is left of requests and stop signals behind them is of this shape
again. -/
theorem requests_first {taken left : List Item} {requests : List UInt64} {stops : Nat}
    (split : taken ++ left = requests.map Item.request ++ List.replicate stops .shutdown) :
    ∃ (later : List UInt64) (signals : Nat),
      left = later.map Item.request ++ List.replicate signals .shutdown := by
  -- Either requests are left, or what is left lies among the stop signals.
  rcases List.append_eq_append_iff.mp split with ⟨between, front, rest⟩ | ⟨between, _, rest⟩
  · rcases List.map_eq_append_iff.mp front with ⟨first, later, _, _, same⟩
    exact ⟨later, stops, by rw [same, rest]⟩
  · have all : ∀ item ∈ left, item = Item.shutdown := by
      intro item member
      exact List.eq_of_mem_replicate (rest ▸ List.mem_append_right between member)
    exact ⟨[], left.length, by simpa using List.eq_replicate_of_mem all⟩

/-- How a pool on a seeded queue stands at every moment. -/
structure Orderly (p : Pool σ) : Prop where
  /-- There is a stop signal for each worker that has not taken one. -/
  stops : stopsIn p.shared.queue.items = p.workers.countP fun w => !w.hasStopped
  /-- The requests that wait stand before all stop signals. -/
  requestsFirst : ∃ (requests : List UInt64) (stops : Nat),
    p.shared.queue.items = requests.map Item.request ++ List.replicate stops .shutdown
  /-- Nobody waits at an empty queue. -/
  neverDry : ∀ w ∈ p.workers, w.stage = .idle → p.shared.queue.items ≠ []

section Seeded

variable (streams : Nat → σ) (total : UInt64) (workers : Nat) (collector : Collector)
  (posts : List Post)

omit [WordSource σ] in
theorem supplied_seeded :
    (start streams workers (.seeded total workers) collector posts).Supplied :=
  supplied_start streams (Queue.stopsIn_seeded total workers).ge collector posts

/-- On a seeded queue a pool stays orderly. -/
theorem Run.orderly
    (run : Run settings (start streams workers (.seeded total workers) collector posts)
      history q) : Orderly q where
  stops := by
    have signals := run.stops
    have number := run.length_workers
    have parts := countP_hasStopped_add q
    rw [countP_hasStopped_start, shared_start, Queue.stopsIn_seeded] at signals
    rw [length_workers_start] at number
    omega
  requestsFirst := by
    have split := run.items
    rw [shared_start, Queue.seeded, ← map_requestsIn_requests] at split
    exact requests_first split
  neverDry w member idle := by
    have supplied := run.supplied (supplied_seeded streams total workers collector posts)
    exact supplied.items_ne_nil member (by simp [Worker.hasStopped, idle])

end Seeded

/-- What keeps a pool from hanging, whatever the transport answers. -/
structure Unblocked (settings : PoolSettings) (p : Pool σ) : Prop where
  /-- As long as the pool has not ended somebody can move. -/
  progress : p.hasEnded = false →
    ∃ id, ∀ answer, ∃ q, p.stepWith? settings answer id = some q
  /-- Nobody can move only when all workers have stopped. -/
  stopped : (∀ id, ∃ answer, p.stepWith? settings answer id = none) →
    ∀ w ∈ p.workers, w.hasStopped = true
  /-- The schedule of choice leads to the end, where joining has nothing to
  wait for. -/
  finished : ∀ transport, ∃ later, Run settings p later (p.run settings transport) ∧
    (p.run settings transport).hasEnded = true ∧
    ∀ w ∈ (p.run settings transport).workers, w.hasStopped = true

/-- A supplied pool with stocked tables cannot hang as long as nobody has
died. -/
theorem Supplied.unblocked (supplied : p.Supplied)
    (stocked : settings.generator.tables.Stocked)
    (alive : ∀ w ∈ p.workers, w.hasDied = false) : Unblocked settings p where
  progress := supplied.moving.exists_step
  stopped := by
    intro stuck
    exact stopped_of_hasEnded (supplied.moving.hasEnded stuck) alive
  finished := by
    intro transport
    rcases Run.of_reaches (run_reaches settings transport p) with ⟨later, run⟩
    have ended := supplied.run_hasEnded settings transport
    exact ⟨later, run, ended, stopped_of_hasEnded ended (run.survived stocked alive)⟩

/-- A pool on a seeded queue with stocked tables is orderly at every moment
and never hangs, and it gets to its end under every schedule: every step makes
`stepBound` smaller, so no run is longer than the bound at its start and none
goes on for ever. -/
theorem seeded_pool_terminates (settings : PoolSettings)
    (stocked : settings.generator.tables.Stocked) (streams : Nat → σ) (total : UInt64)
    (workers : Nat) (collector : Collector) (posts : List Post) :
    let first := start streams workers (.seeded total workers) collector posts
    (∀ history p, Run settings first history p →
      Orderly p ∧ Unblocked settings p ∧ history.length ≤ first.stepBound) ∧
    (∀ p q : Pool σ, ∀ answer id, p.stepWith? settings answer id = some q →
      q.stepBound < p.stepBound) ∧
    ∀ states : Nat → Pool σ,
      ¬ ∀ n, ∃ id answer, (states n).stepWith? settings answer id = some (states (n + 1)) := by
  intro first
  refine ⟨?_, fun p q answer id step => stepBound_lt step, no_endless_schedule⟩
  intro history p run
  have supplied := run.supplied (supplied_seeded streams total workers collector posts)
  have alive := run.survived stocked (alive_start streams workers _ collector posts)
  have bound := run.length_add_stepBound_le
  exact ⟨run.orderly, supplied.unblocked stocked alive, by omega⟩

/-- Three requests and two workers: every schedule ends after at most
thirty-five steps. -/
theorem seeded_pool_terminates_three_requests :
    let settings : PoolSettings := ⟨⟨Tables.standard, none⟩, 100⟩
    let first : Pool Script := start (fun _ => .ofList []) 2 (.seeded 3 2) .empty []
    settings.generator.tables.Stocked ∧
      (∀ history p, Run settings first history p →
        Orderly p ∧ Unblocked settings p ∧ history.length ≤ 35) := by
  intro settings first
  have terminates :=
    seeded_pool_terminates settings Tables.standard_stocked (fun _ => Script.ofList []) 3 2
      .empty []
  have bound : first.stepBound = 35 := by decide
  refine ⟨Tables.standard_stocked, ?_⟩
  intro history p run
  rw [← bound]
  exact terminates.1 history p run

end Pool

end Supply

end ReservationLoad

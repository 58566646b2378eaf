import ReservationLoad.Proofs.Pool.Accounting
import ReservationLoad.Proofs.Pool.Effect
import ReservationLoad.Proofs.Pool.Notices

/-!
# Workers that die

A worker dies when no reservation can be composed for the request in its
hands, and whether one can depends on the tables alone.  So with stocked
tables nobody dies, and otherwise everybody does who takes a request at all: a
worker that dies has served nothing before (`Run.served_by_living`), and what
joining the workers yields covers all samples although a dead worker counts
for nothing.

Over tables that lack rows each worker takes one item and comes no further.
A pool with an item for each of its workers then ends under every schedule and
leaves behind the items it did not take, with nothing posted, recorded or
finished (`Wasted`).
-/

namespace ReservationLoad

open Chance Work

/-- The worker whose death an event reports. -/
def Log.Event.deadWorker? : Log.Event → Option Nat
  | .workerDied worker _ => some worker
  | _ => none

theorem Log.Event.deadWorker?_of_request? {e : Log.Event} (about : e.request?.isSome) :
    e.deadWorker? = none := by
  cases e <;> first | rfl | cases about

/-- What holds of the result at one place alone is found there and nowhere
else. -/
theorem filter_mapIdx_eq_singleton {α β : Type} {holds : β → Bool} {f : Nat → α → β}
    {entries : List α} {place : Nat} {entry : α} (found : entries[place]? = some entry)
    (here : holds (f place entry) = true) (only : ∀ i a, holds (f i a) = true → i = place) :
    (entries.mapIdx f).filter holds = [f place entry] := by
  induction entries generalizing f place with
  | nil => cases found
  | cons first others ih =>
      rw [List.mapIdx_cons]
      cases place with
      | zero =>
          cases found
          rw [List.filter_cons_of_pos here, List.cons_inj_right, List.filter_eq_nil_iff]
          intro result member holding
          rcases List.mem_mapIdx.mp member with ⟨i, inside, rfl⟩
          cases only _ _ holding
      | succ place =>
          have elsewhere : ¬ holds (f 0 first) = true := by
            intro holding
            cases only _ _ holding
          have later : ∀ i a, holds (f (i + 1) a) = true → i = place := by
            intro i a holding
            exact Nat.succ.inj (only _ _ holding)
          rw [List.filter_cons_of_neg elsewhere]
          exact ih found here later

namespace Worker

variable {σ : Type}

/-- Is the worker about to take an item? -/
def isIdle (w : Worker σ) : Bool :=
  match w.stage with
  | .idle => true
  | _ => false

/-- Has the worker never come further than taking an item? -/
def isBarren (w : Worker σ) : Bool :=
  match w.stage with
  | .idle => w.processed = 0
  | .composing _ => w.processed = 0
  | .stopped => w.processed = 0
  | .dead _ _ => w.processed = 0
  | _ => false

theorem processed_of_isBarren {w : Worker σ} (barren : w.isBarren = true) :
    w.processed = 0 := by
  unfold isBarren at barren
  split at barren <;> simp_all

/-- At its end a worker holds a request just when it died over it. -/
theorem isBefore_of_hasEnded {w : Worker σ} (ended : w.hasEnded = true)
    (milestone : Milestone) : w.isBefore milestone = w.hasDied := by
  unfold hasEnded at ended
  unfold isBefore Stage.owing hasDied
  cases stage : w.stage <;> simp_all [Stage.inHand?]

namespace Moves

variable [WordSource σ] {settings : PoolSettings} {answer : Reservation → Reply}
  {id : Nat} {deed : Deed} {me me' : Worker σ} {shared shared' : Shared}

/-- A worker dies of an empty table, and of nothing else. -/
theorem stage_of_dead (move : Worker.Moves settings answer id deed me shared me' shared')
    {request : UInt64} {message : String} (dead : me'.stage = .dead request message) :
    message = DrawFault.emptyTable.message := by
  cases move with
  | @die stream processed request fault shared refused =>
      cases fault
      cases dead
      rfl
  | _ => cases dead

section Unstocked

variable (unstocked : ¬ settings.generator.tables.Stocked)
  (move : Worker.Moves settings answer id deed me shared me' shared')

include unstocked move

/-- Over tables that lack rows workers stay barren, -/
theorem isBarren (barren : me.isBarren = true) : me'.isBarren = true := by
  cases move with
  | compose drawn => exact absurd (Generator.stocked_of_drawFor drawn) unstocked
  | takeRequest => exact barren
  | takeShutdown => exact barren
  | die => exact barren
  | _ => cases barren

/-- barren workers change nothing but the items that wait, -/
theorem shared_of_isBarren (barren : me.isBarren = true) :
    shared' = { shared with queue := ⟨shared'.queue.items, shared.queue.unfinished⟩ } := by
  cases move with
  | compose drawn => exact absurd (Generator.stocked_of_drawFor drawn) unstocked
  | takeRequest => rfl
  | takeShutdown => rfl
  | die => rfl
  | _ => cases barren

/-- and each of them takes one item when it is no longer idle. -/
theorem idle_of_isBarren (barren : me.isBarren = true) :
    me'.isIdle.toNat + shared.queue.items.length =
      me.isIdle.toNat + shared'.queue.items.length := by
  cases move with
  | compose drawn => exact absurd (Generator.stocked_of_drawFor drawn) unstocked
  | takeRequest front => simp [isIdle, front, Nat.add_comm]
  | takeShutdown front => simp [isIdle, front, Nat.add_comm]
  | die => rfl
  | _ => cases barren

end Unstocked

end Moves

end Worker

namespace Pool

variable {σ : Type} [WordSource σ] {settings : PoolSettings} {history : History} {p q : Pool σ}

/-! ## Runs over tables that lack rows -/

/-- What barren workers leave as it was, and how many items they took. -/
structure Fruitless (p q : Pool σ) : Prop where
  barren : ∀ w ∈ q.workers, w.isBarren = true
  shared : q.shared =
    { p.shared with queue := ⟨q.shared.queue.items, p.shared.queue.unfinished⟩ }
  taken : q.workers.countP Worker.isIdle + p.shared.queue.items.length =
    p.workers.countP Worker.isIdle + q.shared.queue.items.length

theorem Run.fruitless (unstocked : ¬ settings.generator.tables.Stocked)
    (run : Run settings p history q) (barren : ∀ w ∈ p.workers, w.isBarren = true) :
    Fruitless p q := by
  refine run.invariant (fun _ r => Fruitless p r) ?_ ⟨barren, rfl, rfl⟩
  intro h q r id deed answer before next step
  rcases moves_of_deed? next step with ⟨me, me', shared', found, move, rfl⟩
  have own := before.barren me (List.mem_of_getElem? found)
  refine ⟨?barren, ?shared, ?taken⟩
  case barren =>
    intro w member
    rcases List.mem_or_eq_of_mem_set member with old | rfl
    · exact before.barren w old
    · exact move.isBarren unstocked own
  case shared =>
    rw [move.shared_of_isBarren unstocked own, before.shared]
  case taken =>
    have exchanged := countP_set_add Worker.isIdle found me'
    have taken := move.idle_of_isBarren unstocked own
    have sofar := before.taken
    simp only
    omega

omit [WordSource σ] in
/-- Dead workers hold the requests they died over, and at the end nobody else
holds any. -/
theorem card_owing_of_hasEnded (ended : p.hasEnded = true) (milestone : Milestone) :
    (p.owing milestone).card = p.workers.countP Worker.hasDied := by
  rw [card_owing]
  apply List.countP_congr
  intro w member
  rw [Worker.isBefore_of_hasEnded (List.all_eq_true.mp ended w member)]

section Start

variable {streams : Nat → σ} {workers : Nat} {queue : Queue} {collector : Collector}
  {posts : List Post}

omit [WordSource σ] in
theorem barren_start :
    ∀ w ∈ (start streams workers queue collector posts).workers, w.isBarren = true := by
  intro w member
  rcases fresh_of_mem_start _ _ _ _ _ member with ⟨id, rfl⟩
  rfl

omit [WordSource σ] in
theorem countP_isIdle_start :
    (start streams workers queue collector posts).workers.countP Worker.isIdle = workers := by
  have all : (start streams workers queue collector posts).workers.countP Worker.isIdle =
      (start streams workers queue collector posts).workers.length := by
    rw [List.countP_eq_length]
    intro w member
    rcases fresh_of_mem_start _ _ _ _ _ member with ⟨id, rfl⟩
    rfl
  rw [all, length_workers_start]

/-! ## What the dead have done -/

/-- All that was served was served by those who live on. -/
theorem Run.unserved_of_hasDied
    (run : Run settings (start streams workers queue collector posts) history p) :
    ∀ w ∈ p.workers, w.hasDied = true → w.processed = 0 := by
  intro w member died
  by_cases stocked : settings.generator.tables.Stocked
  · have alive := run.survived stocked (alive_start _ _ _ _ _) w member
    rw [alive] at died
    cases died
  · exact Worker.processed_of_isBarren ((run.fruitless stocked barren_start).barren w member)

/-- At the end every sample was counted by a worker whose count is not lost. -/
theorem Run.samples_eq_processed
    (run : Run settings (start streams workers queue collector posts) history p)
    (ended : p.hasEnded = true) :
    p.shared.collector.samples.length = collector.samples.length + p.processed := by
  have recorded := run.card_milestones .recorded
  have counted := run.card_milestones .counted
  have samples := run.samples
  have processed := run.processed
  rw [card_owing_of_hasEnded ended, owing_start] at recorded counted
  rw [tally_start _ _ _ _ _ fun _ => rfl] at processed
  rw [processed_eq_tally run.unserved_of_hasDied, processed]
  simp only [shared_start] at samples
  omega

/-- A worker dies of an empty table and of nothing else. -/
theorem Run.message_of_dead
    (run : Run settings (start streams workers queue collector posts) history p)
    {w : Worker σ} (member : w ∈ p.workers) {request : UInt64} {message : String}
    (dead : w.stage = .dead request message) : message = DrawFault.emptyTable.message := by
  refine run.invariant
    (fun _ r => ∀ w ∈ r.workers, ∀ request message, w.stage = .dead request message →
      message = DrawFault.emptyTable.message) ?_ ?_ w member request message dead
  · intro h q r id deed answer before next step w member
    rcases moves_of_deed? next step with ⟨me, me', shared', found, move, rfl⟩
    rcases List.mem_or_eq_of_mem_set member with old | rfl
    · exact before w old
    · exact fun _ _ => move.stage_of_dead
  · intro w member request message dead
    rcases fresh_of_mem_start _ _ _ _ _ member with ⟨id, rfl⟩
    cases dead

/-- What the log of a pool says of its deaths. -/
structure DeathsReported (p : Pool σ) : Prop where
  /-- There is one error event for each dead worker, which gives the cause of
  its death, -/
  once : ∀ id me, p.workers[id]? = some me → me.hasDied = true →
    ∃ event, p.eventLog.filter (fun e => e.deadWorker? = some id) = [event] ∧
      event.level = .error ∧
      event.message = "Worker thread panicked: " ++ DrawFault.emptyTable.message
  /-- and none for anybody else. -/
  nobodyElse : ∀ event ∈ p.eventLog, ∀ id, event.deadWorker? = some id →
    ∃ me, p.workers[id]? = some me ∧ me.hasDied = true

omit [WordSource σ] in
theorem deadWorker?_joinWorker {id who : Nat} {w : Worker σ}
    (reports : (joinWorker id w).1.deadWorker? = some who) : id = who ∧ w.hasDied = true := by
  unfold joinWorker at reports
  split at reports
  next request message dead =>
    cases reports
    exact ⟨rfl, by simp [Worker.hasDied, dead]⟩
  next => cases reports

theorem Run.deathsReported
    (run : Run settings (start streams workers queue collector posts) history p) :
    DeathsReported p := by
  have quiet : ∀ e ∈ p.shared.events, e.deadWorker? = none := by
    intro e member
    rcases run.events e member with earlier | about
    · cases earlier
    · exact Log.Event.deadWorker?_of_request? about
  refine ⟨?once, ?nobodyElse⟩
  case once =>
    intro id me found died
    have stage : ∃ request, me.stage = .dead request DrawFault.emptyTable.message := by
      unfold Worker.hasDied at died
      split at died
      next request message dead =>
        obtain rfl := run.message_of_dead (List.mem_of_getElem? found) dead
        exact ⟨request, dead⟩
      next => cases died
    rcases stage with ⟨request, dead⟩
    let event : Log.Event := .workerDied id DrawFault.emptyTable.message
    have joins : joinWorker id me = (event, 0) := by
      simp [joinWorker, dead, event]
    have single : p.joined.filter (fun result => result.1.deadWorker? = some id) =
        [(event, 0)] := by
      rw [← joins]
      apply filter_mapIdx_eq_singleton found
      · simp [joins, event, Log.Event.deadWorker?]
      · intro who w reports
        exact (deadWorker?_joinWorker (of_decide_eq_true reports)).1
    refine ⟨event, ?_, rfl, rfl⟩
    have silent : p.shared.events.reverse.filter (fun e => e.deadWorker? = some id) = [] := by
      rw [List.filter_eq_nil_iff]
      intro e member
      rw [quiet e (List.mem_reverse.mp member)]
      simp
    rw [eventLog, List.filter_cons_of_neg (by simp [Log.Event.deadWorker?]),
      List.filter_append, silent, List.filter_map, List.nil_append]
    exact congrArg (List.map Prod.fst) single
  case nobodyElse =>
    intro event member id reports
    simp only [eventLog, List.mem_cons, List.mem_append, List.mem_reverse, List.mem_map]
      at member
    rcases member with rfl | during | ⟨result, joined, rfl⟩
    · cases reports
    · rw [quiet event during] at reports
      cases reports
    · rcases List.mem_mapIdx.mp joined with ⟨who, inside, rfl⟩
      rcases deadWorker?_joinWorker reports with ⟨rfl, died⟩
      exact ⟨_, List.getElem?_eq_getElem inside, died⟩

/-! ## A pool whose tables lack rows -/

/-- The pool as it was, but for the items that were taken. -/
structure Untouched (queue : Queue) (collector : Collector) (posts : List Post)
    (p : Pool σ) : Prop where
  posted : p.shared.posts = posts
  recorded : p.shared.collector = collector
  unfinished : p.shared.queue.unfinished = queue.unfinished

/-- What a pool of `workers` workers makes of a queue when each of them dies
over the first request it takes. -/
structure Wasted (workers : Nat) (queue : Queue) (p : Pool σ) : Prop where
  /-- Each worker took one item. -/
  remaining : p.shared.queue.items = queue.items.drop workers
  /-- Joining yields nothing. -/
  joined : p.processed = 0
  /-- The requests among those items are in the hands of the dead, -/
  held : p.owing .recorded = (requestsIn (queue.items.take workers) : Multiset UInt64)
  /-- one in those of each. -/
  deaths : p.workers.countP Worker.hasDied = (requestsIn (queue.items.take workers)).length

omit [WordSource σ] in
theorem Fruitless.untouched
    (fruitless : Fruitless (start streams workers queue collector posts) p) :
    Untouched queue collector posts p := by
  have same := fruitless.shared
  rw [shared_start] at same
  constructor <;> rw [same]

/-- With an item for each worker nobody waits at an empty queue. -/
theorem Fruitless.moving
    (fruitless : Fruitless (start streams workers queue collector posts) p)
    (enough : workers ≤ queue.items.length) : Moving settings p := by
  apply moving_of_fed
  intro me member idle empty
  have somebody : 0 < p.workers.countP Worker.isIdle :=
    List.countP_pos_iff.mpr ⟨me, member, by simp [Worker.isIdle, idle]⟩
  have taken := fruitless.taken
  rw [countP_isIdle_start, shared_start, empty, List.length_nil] at taken
  simp only at taken
  omega

theorem Run.wasted
    (run : Run settings (start streams workers queue collector posts) history p)
    (fruitless : Fruitless (start streams workers queue collector posts) p)
    (ended : p.hasEnded = true) : Wasted workers queue p := by
  have nobody : p.workers.countP Worker.isIdle = 0 := by
    rw [List.countP_eq_zero]
    intro w member idle
    have halted := List.all_eq_true.mp ended w member
    unfold Worker.isIdle at idle
    unfold Worker.hasEnded at halted
    split at idle <;> simp_all
  have remaining : p.shared.queue.items = queue.items.drop workers := by
    have items := run.items
    have taken := fruitless.taken
    rw [nobody, countP_isIdle_start, shared_start] at taken
    rw [shared_start] at items
    have number : (History.taken history).reverse.length = workers := by
      have whole := congrArg List.length items
      rw [List.length_append] at whole
      simp only at taken whole
      omega
    rw [← items, List.drop_left' number]
  have held : p.owing .recorded =
      (requestsIn (queue.items.take workers) : Multiset UInt64) := by
    have nothing : History.passed .recorded history = [] := by
      have samples := run.samples
      rw [fruitless.untouched.recorded, shared_start] at samples
      exact List.length_eq_zero_iff.mp (by simpa using samples)
    have account := run.milestones .recorded
    rw [nothing, owing_start, shared_start, remaining, zero_add] at account
    apply add_right_cancel (b := (requestsIn (queue.items.drop workers) : Multiset UInt64))
    rw [Multiset.coe_add, ← requestsIn_append, List.take_append_drop]
    simpa using account
  refine ⟨remaining, ?joined, held, ?deaths⟩
  case joined =>
    have yielded := run.samples_eq_processed ended
    rw [fruitless.untouched.recorded] at yielded
    omega
  case deaths =>
    rw [← card_owing_of_hasEnded ended .recorded, held, Multiset.coe_card]

end Start

/-- Joining yields as many requests as samples were recorded, whoever died,
and the log tells of each death once.  With a table that lacks rows a pool that
has an item for each of its workers comes to its end without a post or a
sample, under every schedule; with stocked tables nobody dies. -/
theorem deaths_lose_no_sample (settings : PoolSettings) (streams : Nat → σ) (workers : Nat)
    (queue : Queue) (collector : Collector) (posts : List Post) :
    let first := start streams workers queue collector posts
    (∀ history p, Run settings first history p → p.hasEnded = true →
      (∃ new, p.shared.collector.samples = new ++ collector.samples ∧
        p.processed = new.length) ∧
      DeathsReported p) ∧
    (¬ settings.generator.tables.Stocked → workers ≤ queue.items.length →
      (∀ history p, Run settings first history p →
        history.length ≤ first.stepBound ∧ Moving settings p ∧
        Untouched queue collector posts p ∧ (p.hasEnded = true → Wasted workers queue p)) ∧
      ∀ transport, (first.run settings transport).hasEnded = true) ∧
    (settings.generator.tables.Stocked → ∀ history p, Run settings first history p →
      ∀ w ∈ p.workers, w.hasDied = false) := by
  intro first
  refine ⟨?covered, ?unstocked, ?stocked⟩
  case covered =>
    intro history p run ended
    refine ⟨?_, run.deathsReported⟩
    rcases run.samples_suffix with ⟨new, added⟩
    refine ⟨new, added.symm, ?_⟩
    have account := run.samples_eq_processed ended
    rw [← added, List.length_append, shared_start, Nat.add_comm] at account
    exact (Nat.add_left_cancel account).symm
  case unstocked =>
    intro unstocked enough
    have moving : ∀ history p, Run settings first history p → Moving settings p :=
      fun history p run => (run.fruitless unstocked barren_start).moving enough
    refine ⟨?_, run_hasEnded_of_moving moving⟩
    intro history p run
    have fruitless := run.fruitless unstocked barren_start
    have bound := run.length_add_stepBound_le
    exact ⟨by omega, moving history p run, fruitless.untouched, run.wasted fruitless⟩
  case stocked =>
    intro stocked history p run
    exact run.survived stocked (alive_start streams workers queue collector posts)

/-- Two workers without rooms to draw from: the first dies over its request, the
second takes the stop signal, and the request behind it waits.  With rooms
both live. -/
theorem deaths_lose_no_sample_without_rooms :
    let settings : PoolSettings := ⟨⟨{ Tables.standard with rooms := [] }, some 1⟩, 100⟩
    let items : List Item := [.request 5, .shutdown, .request 7]
    let first : Pool Script :=
      start (fun _ => .ofList []) 2 (Queue.empty.putAll items) .empty []
    let last := first.run settings (.mock 200 0)
    let stocked : PoolSettings := ⟨⟨Tables.standard, some 1⟩, 100⟩
    (¬ settings.generator.tables.Stocked ∧ 2 ≤ (Queue.empty.putAll items).items.length ∧
      last.hasEnded = true ∧ last.shared.queue.items = [.request 7] ∧
      last.shared.queue.unfinished = 2 ∧ last.shared.posts = [] ∧
      last.shared.collector = .empty ∧ last.processed = 0 ∧
      last.workers.countP Worker.hasDied = 1 ∧ DeathsReported last) ∧
    stocked.generator.tables.Stocked ∧
      ∀ w ∈ (first.run stocked (.mock 200 0)).workers, w.hasDied = false := by
  intro settings items first last stocked
  have unstocked : ¬ settings.generator.tables.Stocked := fun rows => rows.rooms rfl
  have enough : 2 ≤ (Queue.empty.putAll items).items.length := by decide
  have deaths := deaths_lose_no_sample (σ := Script) settings (fun _ => .ofList []) 2
    (Queue.empty.putAll items) .empty []
  rcases Run.of_reaches (run_reaches settings (.mock 200 0) first) with ⟨history, run⟩
  rcases deaths.2.1 unstocked enough with ⟨always, ends⟩
  have ended : last.hasEnded = true := ends (.mock 200 0)
  rcases always history last run with ⟨_, _, untouched, wasted⟩
  rcases Run.of_reaches (run_reaches stocked (.mock 200 0) first) with ⟨later, other⟩
  have living := deaths_lose_no_sample (σ := Script) stocked (fun _ => .ofList []) 2
    (Queue.empty.putAll items) .empty []
  exact ⟨⟨unstocked, enough, ended, (wasted ended).remaining, untouched.unfinished,
      untouched.posted, untouched.recorded, (wasted ended).joined, (wasted ended).deaths,
      (deaths.1 history last run ended).2⟩,
    Tables.standard_stocked, living.2.2 Tables.standard_stocked later _ other⟩

end Pool

end ReservationLoad

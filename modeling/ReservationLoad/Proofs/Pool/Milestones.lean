import Mathlib.Algebra.Order.BigOperators.Group.List
import Mathlib.Data.Multiset.OrderedMonoid
import ReservationLoad.Proofs.Pool.History

/-!
# Milestones of requests

Every request that is taken from the queue passes the milestones of the loop
one after another, each of them once.  For every milestone the requests that
passed it, those in the hands of workers that have yet to pass it, and those
that wait in the queue together are always the requests that waited at the
start (`Run.milestones`); a single worker passes them in the order in which
they waited (`Run.passedBy_sublist`).

What the workers share follows from the milestones: posts, samples, the count
of unfinished requests and the workers' own counts each record one of them.
-/

namespace ReservationLoad

open Chance Work

/-- The request that a deed leads past a milestone. -/
def Deed.passed? (milestone : Milestone) : Deed → Option UInt64
  | .pass passed request => if passed = milestone then some request else none
  | .take _ => none
  | .die _ => none

/-- The item that a deed takes from the queue. -/
def Deed.taken? : Deed → Option Item
  | .take item => some item
  | .pass _ _ => none
  | .die _ => none

namespace History

/-- The requests that passed a milestone, the latest first. -/
def passed (milestone : Milestone) (history : History) : List UInt64 :=
  history.filterMap fun entry => entry.2.passed? milestone

/-- The requests that one worker led past a milestone, the latest first. -/
def passedBy (worker : Nat) (milestone : Milestone) (history : History) : List UInt64 :=
  passed milestone (history.filter fun entry => entry.1 = worker)

/-- The items that were taken from the queue, the latest first. -/
def taken (history : History) : List Item :=
  history.filterMap fun entry => entry.2.taken?

@[simp]
theorem passed_nil (milestone : Milestone) : passed milestone [] = [] := rfl

@[simp]
theorem passed_cons (milestone : Milestone) (entry : Nat × Deed) (history : History) :
    passed milestone (entry :: history) =
      (entry.2.passed? milestone).toList ++ passed milestone history := by
  cases found : entry.2.passed? milestone <;> simp [passed, found]

theorem passedBy_cons_self (worker : Nat) (milestone : Milestone) (deed : Deed)
    (history : History) :
    passedBy worker milestone ((worker, deed) :: history) =
      (deed.passed? milestone).toList ++ passedBy worker milestone history := by
  simp [passedBy]

theorem passedBy_cons_of_ne {worker other : Nat} (different : other ≠ worker)
    (milestone : Milestone) (deed : Deed) (history : History) :
    passedBy worker milestone ((other, deed) :: history) =
      passedBy worker milestone history := by
  simp [passedBy, different]

@[simp]
theorem taken_cons (entry : Nat × Deed) (history : History) :
    taken (entry :: history) = entry.2.taken?.toList ++ taken history := by
  cases found : entry.2.taken? <;> simp [taken, found]

end History

/-- Does a worker hold a successful reply that it has not recorded? -/
def Worker.holdsSuccess {σ : Type} (w : Worker σ) : Bool :=
  match w.stage with
  | .reporting _ _ reply => reply.outcome.isSuccess
  | .recording _ reply => reply.outcome.isSuccess
  | _ => false

/-- The number of posts that succeeded. -/
def successes (posts : List Post) : Nat := posts.countP fun post => post.outcome.isSuccess

/-! ## What one move does to the requests -/

namespace Worker.Moves

variable {σ : Type} [WordSource σ] {settings : PoolSettings} {answer : Reservation → Reply}
  {id : Nat} {deed : Deed} {me me' : Worker σ} {shared shared' : Shared}

/-- The requests before a milestone, in hand and waiting, lose by a move the
one that passes it and no other, and keep their order. -/
theorem requests (move : Worker.Moves settings answer id deed me shared me' shared')
    (milestone : Milestone) :
    (deed.passed? milestone).toList ++
        (me'.stage.owing milestone ++ requestsIn shared'.queue.items) =
      me.stage.owing milestone ++ requestsIn shared.queue.items := by
  cases move with
  | takeRequest front => simp [Deed.passed?, Stage.owing, Stage.inHand?, front]
  | takeShutdown front => simp [Deed.passed?, Stage.owing, Stage.inHand?, front]
  | die => simp [Deed.passed?, Stage.owing, Stage.inHand?]
  | compose => cases milestone <;> simp [Deed.passed?, Stage.owing, Stage.inHand?, Milestone.rank]
  | post => cases milestone <;> simp [Deed.passed?, Stage.owing, Stage.inHand?, Milestone.rank]
  | report => cases milestone <;> simp [Deed.passed?, Stage.owing, Stage.inHand?, Milestone.rank]
  | record => cases milestone <;> simp [Deed.passed?, Stage.owing, Stage.inHand?, Milestone.rank]
  | acknowledge =>
      cases milestone <;> simp [Deed.passed?, Stage.owing, Stage.inHand?, Milestone.rank]
  | count => cases milestone <;> simp [Deed.passed?, Stage.owing, Stage.inHand?, Milestone.rank]

theorem items (move : Worker.Moves settings answer id deed me shared me' shared') :
    deed.taken?.toList ++ shared'.queue.items = shared.queue.items := by
  cases move with
  | takeRequest front => simp [Deed.taken?, front]
  | takeShutdown front => simp [Deed.taken?, front]
  | compose => rfl
  | die => rfl
  | post => rfl
  | report => rfl
  | record => rfl
  | acknowledge => rfl
  | count => rfl

theorem waiting_sublist (move : Worker.Moves settings answer id deed me shared me' shared') :
    (requestsIn shared'.queue.items).Sublist (requestsIn shared.queue.items) := by
  rw [← move.items, requestsIn_append]
  exact List.sublist_append_right _ _

theorem posts (move : Worker.Moves settings answer id deed me shared me' shared') :
    shared'.posts.map Post.request =
      (deed.passed? .posted).toList ++ shared.posts.map Post.request := by
  cases move <;> simp [Deed.passed?]

theorem postsBy (move : Worker.Moves settings answer id deed me shared me' shared')
    (own : Nat) :
    (shared'.posts.filter fun post => post.worker = own).map Post.request =
      (if id = own then (deed.passed? .posted).toList else []) ++
        (shared.posts.filter fun post => post.worker = own).map Post.request := by
  cases move with
  | post => by_cases same : id = own <;> simp [Deed.passed?, same]
  | _ => simp [Deed.passed?]

theorem samples (move : Worker.Moves settings answer id deed me shared me' shared') :
    shared'.collector.samples.length =
      (deed.passed? .recorded).toList.length + shared.collector.samples.length := by
  cases move <;> simp [Deed.passed?, Collector.record, Nat.add_comm]

theorem outcomes (move : Worker.Moves settings answer id deed me shared me' shared') :
    shared'.collector.success + shared'.collector.errors =
      (deed.passed? .recorded).toList.length +
        (shared.collector.success + shared.collector.errors) := by
  cases move with
  | record =>
      rw [Collector.success_add_errors_record]
      simp [Deed.passed?, Nat.add_comm]
  | _ => simp [Deed.passed?]

/-- Every successful post is counted as a success when its sample is
recorded. -/
theorem successes (move : Worker.Moves settings answer id deed me shared me' shared') :
    shared'.collector.success + me'.holdsSuccess.toNat +
        ReservationLoad.successes shared.posts =
      shared.collector.success + me.holdsSuccess.toNat +
        ReservationLoad.successes shared'.posts := by
  cases move with
  | @post stream processed request reservation shared =>
      cases succeeded : (answer reservation).outcome.isSuccess with
      | true =>
          simp only [holdsSuccess, ReservationLoad.successes, succeeded, List.countP_cons_of_pos]
          simp only [Bool.toNat_true, Bool.toNat_false]
          omega
      | false => simp [holdsSuccess, ReservationLoad.successes, succeeded]
  | @record stream processed request reply shared =>
      cases succeeded : reply.outcome.isSuccess <;>
        simp [holdsSuccess, Collector.record, succeeded]
  | _ => rfl

/-- Every request that is acknowledged is taken off the count of unfinished
ones, unless the count is at zero already. -/
theorem unfinished (move : Worker.Moves settings answer id deed me shared me' shared')
    (counted : me.stage.owing .acknowledged ≠ [] → 0 < shared.queue.unfinished) :
    shared'.queue.unfinished + (deed.passed? .acknowledged).toList.length =
      shared.queue.unfinished := by
  cases move with
  | acknowledge =>
      have positive := counted (by simp [Stage.owing, Stage.inHand?, Milestone.rank])
      simp only [Deed.passed?, Queue.unfinished_acknowledge]
      simpa using Nat.sub_add_cancel positive
  | _ => simp [Deed.passed?]

theorem processed (move : Worker.Moves settings answer id deed me shared me' shared') :
    me'.processed = me.processed + (deed.passed? .counted).toList.length := by
  cases move <;> simp [Deed.passed?]

end Worker.Moves

/-! ## What a run does to the requests -/

namespace Pool

variable {σ : Type} [WordSource σ] {settings : PoolSettings} {history : History} {p q : Pool σ}

/-- The requests in the hands of all workers that have not passed a
milestone. -/
def owing (milestone : Milestone) (p : Pool σ) : Multiset UInt64 :=
  p.tally fun w => (w.stage.owing milestone : Multiset UInt64)

omit [WordSource σ] in
theorem owing_le {me : Worker σ} (member : me ∈ p.workers) (milestone : Milestone) :
    (me.stage.owing milestone : Multiset UInt64) ≤ p.owing milestone := by
  apply List.le_sum_of_mem
  exact List.mem_map.mpr ⟨me, member, rfl⟩

theorem payments_passed (milestone : Milestone) (history : History) :
    payments (fun _ deed => ((deed.passed? milestone).toList : Multiset UInt64)) history =
      History.passed milestone history := by
  induction history with
  | nil => rfl
  | cons entry earlier ih =>
      rw [payments_cons, History.passed_cons, ih, Multiset.coe_add]

theorem requests_balance {answer : Reservation → Reply} {id : Nat} {deed : Deed}
    {me me' : Worker σ} {shared shared' : Shared}
    (move : Worker.Moves settings answer id deed me shared me' shared')
    (milestone : Milestone) :
    (me'.stage.owing milestone : Multiset UInt64) + requestsIn shared'.queue.items +
        (deed.passed? milestone).toList =
      (me.stage.owing milestone : Multiset UInt64) + requestsIn shared.queue.items := by
  have kept := congrArg (fun requests : List UInt64 => (requests : Multiset UInt64))
    (move.requests milestone)
  simp only [← Multiset.coe_add] at kept
  rw [add_comm, kept]

/-- Passed, in hand or waiting: no request is lost and none is added. -/
theorem Run.milestones (run : Run settings p history q) (milestone : Milestone) :
    q.owing milestone + requestsIn q.shared.queue.items + History.passed milestone history =
      p.owing milestone + requestsIn p.shared.queue.items := by
  rw [← payments_passed]
  exact run.balance (fun w => (w.stage.owing milestone : Multiset UInt64))
    (fun shared => (requestsIn shared.queue.items : Multiset UInt64)) _
    fun move => requests_balance move milestone

theorem Run.card_milestones (run : Run settings p history q) (milestone : Milestone) :
    (q.owing milestone).card + (requestsIn q.shared.queue.items).length +
        (History.passed milestone history).length =
      (p.owing milestone).card + (requestsIn p.shared.queue.items).length := by
  simpa using congrArg Multiset.card (run.milestones milestone)

/-- A worker passes a milestone with its requests in the order in which they
waited, each at its turn. -/
theorem Run.passedBy_sublist (run : Run settings p history q) (own : Nat)
    (milestone : Milestone) {first me : Worker σ} (start : p.workers[own]? = some first)
    (found : q.workers[own]? = some me) :
    ((History.passedBy own milestone history).reverse ++
        (me.stage.owing milestone ++ requestsIn q.shared.queue.items)).Sublist
      (first.stage.owing milestone ++ requestsIn p.shared.queue.items) := by
  refine run.localInvariant own
    (fun h w shared =>
      ((History.passedBy own milestone h).reverse ++
          (w.stage.owing milestone ++ requestsIn shared.queue.items)).Sublist
        (first.stage.owing milestone ++ requestsIn p.shared.queue.items))
    ?own ?other ?start me found
  case own =>
    intro answer deed shared shared' history me me' move before
    have turn : (deed.passed? milestone).toList.reverse = (deed.passed? milestone).toList := by
      cases deed.passed? milestone <;> rfl
    rw [History.passedBy_cons_self, List.reverse_append, turn, List.append_assoc,
      move.requests milestone]
    exact before
  case other =>
    intro answer other deed shared shared' history me they they' different move before
    rw [History.passedBy_cons_of_ne different]
    refine List.Sublist.trans ?_ before
    exact (move.waiting_sublist.append_left _).append_left _
  case start =>
    intro me same
    obtain rfl : first = me := Option.some.inj (start.symm.trans same)
    exact List.Sublist.refl _

/-- What was taken and what still waits are the items of the start, in their
order. -/
theorem Run.items (run : Run settings p history q) :
    (History.taken history).reverse ++ q.shared.queue.items = p.shared.queue.items := by
  refine run.sharedInvariant
    (fun h shared => (History.taken h).reverse ++ shared.queue.items = p.shared.queue.items)
    ?_ rfl
  intro answer id deed shared shared' history me me' move before
  have turn : deed.taken?.toList.reverse = deed.taken?.toList := by
    cases deed.taken? <;> rfl
  rw [History.taken_cons, List.reverse_append, turn, List.append_assoc, move.items, before]

/-! ## What is recorded of the milestones -/

/-- The list of posts grows by the requests that are posted. -/
theorem Run.posts (run : Run settings p history q) :
    q.shared.posts.map Post.request =
      History.passed .posted history ++ p.shared.posts.map Post.request := by
  refine run.sharedInvariant
    (fun h shared =>
      shared.posts.map Post.request =
        History.passed .posted h ++ p.shared.posts.map Post.request)
    ?_ rfl
  intro answer id deed shared shared' history me me' move before
  rw [move.posts, before, History.passed_cons, List.append_assoc]

theorem Run.postsBy (run : Run settings p history q) (own : Nat) :
    (q.shared.posts.filter fun post => post.worker = own).map Post.request =
      History.passedBy own .posted history ++
        (p.shared.posts.filter fun post => post.worker = own).map Post.request := by
  refine run.sharedInvariant
    (fun h shared =>
      (shared.posts.filter fun post => post.worker = own).map Post.request =
        History.passedBy own .posted h ++
          (p.shared.posts.filter fun post => post.worker = own).map Post.request)
    ?_ rfl
  intro answer id deed shared shared' history me me' move before
  rw [move.postsBy own, before]
  by_cases same : id = own
  · subst same
    rw [History.passedBy_cons_self, if_pos rfl, List.append_assoc]
  · rw [History.passedBy_cons_of_ne same, if_neg same, List.nil_append]

/-- There is a new sample for every request that is recorded. -/
theorem Run.samples (run : Run settings p history q) :
    q.shared.collector.samples.length =
      (History.passed .recorded history).length + p.shared.collector.samples.length := by
  refine run.sharedInvariant
    (fun h shared =>
      shared.collector.samples.length =
        (History.passed .recorded h).length + p.shared.collector.samples.length)
    ?_ (by simp)
  intro answer id deed shared shared' history me me' move before
  rw [move.samples, before, History.passed_cons, List.length_append, Nat.add_assoc]

/-- Each of them counts as a success or as an error. -/
theorem Run.outcomes (run : Run settings p history q) :
    q.shared.collector.success + q.shared.collector.errors =
      (History.passed .recorded history).length +
        (p.shared.collector.success + p.shared.collector.errors) := by
  refine run.sharedInvariant
    (fun h shared =>
      shared.collector.success + shared.collector.errors =
        (History.passed .recorded h).length +
          (p.shared.collector.success + p.shared.collector.errors))
    ?_ (by simp)
  intro answer id deed shared shared' history me me' move before
  rw [move.outcomes, before, History.passed_cons, List.length_append, Nat.add_assoc]

/-- Successes are those of the posts whose samples have been recorded. -/
theorem Run.successes (run : Run settings p history q) :
    q.shared.collector.success + q.tally (fun w => w.holdsSuccess.toNat) +
        ReservationLoad.successes p.shared.posts =
      p.shared.collector.success + p.tally (fun w => w.holdsSuccess.toNat) +
        ReservationLoad.successes q.shared.posts := by
  have account := run.transfer (fun w => w.holdsSuccess.toNat)
    (fun shared => ReservationLoad.successes shared.posts)
    (fun shared => shared.collector.success)
    fun move => by simpa only [Nat.add_comm] using move.successes
  simpa only [Nat.add_comm] using account

/-- Every acknowledgement is taken off the count of unfinished requests, if
that count includes all requests there are. -/
theorem Run.unfinished (run : Run settings p history q)
    (counted : (p.owing .acknowledged).card + (requestsIn p.shared.queue.items).length ≤
      p.shared.queue.unfinished) :
    q.shared.queue.unfinished + (History.passed .acknowledged history).length =
      p.shared.queue.unfinished := by
  induction run with
  | refl => rfl
  | @step q r history id deed answer before next step ih =>
      rcases moves_of_deed? next step with ⟨me, me', shared', found, move, rfl⟩
      -- The milestones so far show that the count still includes the request in hand.
      have balance := before.card_milestones .acknowledged
      have owed : (me.stage.owing .acknowledged).length ≤ (q.owing .acknowledged).card := by
        simpa using Multiset.card_le_card
          (owing_le (List.mem_of_getElem? found) .acknowledged)
      have taken := move.unfinished fun owing => by
        have some : 0 < (me.stage.owing .acknowledged).length := List.length_pos_iff.mpr owing
        omega
      simp only [History.passed_cons, List.length_append]
      omega

theorem Run.processed (run : Run settings p history q) :
    q.tally Worker.processed =
      (History.passed .counted history).length + p.tally Worker.processed := by
  refine run.invariant
    (fun h r =>
      r.tally Worker.processed =
        (History.passed .counted h).length + p.tally Worker.processed)
    ?_ (by simp)
  intro h q r id deed answer before next step
  rcases moves_of_deed? next step with ⟨me, me', shared', found, move, rfl⟩
  have exchanged := sum_map_set Worker.processed found me'
  have counted := move.processed
  simp only [History.passed_cons, List.length_append, tally] at before ⊢
  omega

end Pool

end ReservationLoad

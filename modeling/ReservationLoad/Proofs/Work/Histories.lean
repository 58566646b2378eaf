import Mathlib.Data.List.Induction
import Mathlib.Order.Bounds.Basic
import ReservationLoad.Proofs.Work.Items

/-!
# Histories of a queue

A history lists what was done to a queue: items were put, items were taken and
requests were acknowledged.  After every history a queue holds what was put and
not taken, in the order in which it was put.  An acknowledgement that nothing is
left for is forgotten, so the number of unfinished requests is no plain
difference: it is the greatest excess of requests over acknowledgements among
the last so many operations (`Queue.histories_reflected`).

The number is a word.  It is that excess as long as there never are 2⁶⁴ requests
more than acknowledgements among consecutive operations; behind so many of them it
starts again at zero, while the items are not affected.
-/

namespace ReservationLoad.Work

/-- What can be done to a queue. -/
inductive Operation
  | put (item : Item)
  | take
  | acknowledge
deriving DecidableEq

namespace Operation

def item? : Operation → Option Item
  | put item => some item
  | _ => none

/-- Does the operation bear on the number of unfinished requests? -/
def counts : Operation → Bool
  | put (.request _) => true
  | acknowledge => true
  | _ => false

/-- The number of unfinished requests behind an operation. -/
def count {κ : Type} [Counter κ] (unfinished : κ) : Operation → κ
  | put (.request _) => Counter.up unfinished
  | acknowledge => Counter.down unfinished
  | _ => unfinished

end Operation

variable {history operations : List Operation} {operation : Operation}

/-! ## What a history says -/

/-- The items put, in order. -/
def putIn (history : List Operation) : List Item := history.filterMap Operation.item?

def acknowledgementsIn (history : List Operation) : Nat := history.count .acknowledge

def takesIn (history : List Operation) : Nat := history.count .take

/-- The requests put without the acknowledgements. -/
def excess (history : List Operation) : Int :=
  (requestsIn (putIn history)).length - acknowledgementsIn history

/-- The excesses of the last so many operations, of none and of all of them too. -/
def latestExcesses (history : List Operation) : Set Int :=
  {e | ∃ latest, latest <:+ history ∧ e = excess latest}

/-- The unfinished requests, counted from operation to operation. -/
def backlog (κ : Type) [Counter κ] (history : List Operation) : κ :=
  history.foldl Operation.count Counter.zero

/-- Is the number of requests more than acknowledgements a word among any
consecutive operations? -/
def Countable (history : List Operation) : Prop :=
  ∀ stretch, stretch <:+: history → excess stretch < UInt64.size

@[simp]
theorem putIn_append (first second : List Operation) :
    putIn (first ++ second) = putIn first ++ putIn second := List.filterMap_append

@[simp]
theorem putIn_singleton (operation : Operation) : putIn [operation] = operation.item?.toList := by
  cases operation <;> rfl

@[simp]
theorem putIn_map_put (items : List Item) : putIn (items.map .put) = items := by
  rw [putIn, List.filterMap_map]
  exact List.filterMap_some

theorem takesIn_concat (history : List Operation) (operation : Operation) :
    takesIn (history ++ [operation]) = takesIn history + if operation = .take then 1 else 0 := by
  rw [takesIn, List.count_append, List.count_singleton, takesIn]
  simp only [beq_iff_eq]

theorem excess_append (first second : List Operation) :
    excess (first ++ second) = excess first + excess second := by
  simp only [excess, acknowledgementsIn, putIn_append, requestsIn_append, List.length_append,
    List.count_append, Int.natCast_add]
  omega

theorem excess_request (id : UInt64) : excess [.put (.request id)] = 1 := rfl

theorem excess_acknowledge : excess [.acknowledge] = -1 := rfl

theorem eq_of_not_counts (silent : operation.counts = false) :
    operation = .put .shutdown ∨ operation = .take := by
  cases operation with
  | put item =>
      cases item with
      | request id => cases silent
      | shutdown => exact .inl rfl
  | take => exact .inr rfl
  | acknowledge => cases silent

theorem excess_of_not_counts (silent : operation.counts = false) : excess [operation] = 0 := by
  rcases eq_of_not_counts silent with rfl | rfl <;> rfl

/-! ## The backlog -/

section Counting

variable {κ : Type} [Counter κ]

@[simp]
theorem backlog_concat (history : List Operation) (operation : Operation) :
    backlog κ (history ++ [operation]) = operation.count (backlog κ history) := by
  rw [backlog, List.foldl_append, List.foldl_cons, List.foldl_nil, backlog]

theorem count_of_not_counts (silent : operation.counts = false) (unfinished : κ) :
    operation.count unfinished = unfinished := by
  rcases eq_of_not_counts silent with rfl | rfl <;> rfl

/-- Only requests and acknowledgements count. -/
theorem backlog_filter (history : List Operation) :
    backlog κ (history.filter Operation.counts) = backlog κ history := by
  induction history using List.reverseRecOn with
  | nil => rfl
  | append_singleton history operation ih =>
      rw [List.filter_append, backlog_concat]
      cases counted : operation.counts with
      | true => rw [List.filter_cons_of_pos counted, List.filter_nil, backlog_concat, ih]
      | false =>
          rw [List.filter_cons_of_neg (Bool.eq_false_iff.mp counted), List.filter_nil,
            List.append_nil, ih, count_of_not_counts counted]

end Counting

theorem count_request (unfinished : Nat) (id : UInt64) :
    (Operation.put (.request id)).count unfinished = unfinished + 1 := rfl

theorem count_acknowledge (unfinished : Nat) :
    Operation.acknowledge.count unfinished = unfinished - 1 := rfl

/-- An operation adds its own excess, and nothing is left below zero. -/
theorem natCast_count (unfinished : Nat) (operation : Operation) :
    ((operation.count unfinished : Nat) : Int) = max 0 (unfinished + excess [operation]) := by
  cases operation with
  | put item =>
      cases item with
      | request id =>
          rw [excess_request, count_request]
          omega
      | shutdown =>
          rw [excess_of_not_counts rfl, count_of_not_counts rfl]
          omega
  | take =>
      rw [excess_of_not_counts rfl, count_of_not_counts rfl]
      omega
  | acknowledge =>
      rw [excess_acknowledge, count_acknowledge]
      omega

/-- The latest operations with one more behind them are none, or the latest
operations so far with that one. -/
theorem mem_latestExcesses_concat {e : Int} :
    e ∈ latestExcesses (history ++ [operation]) ↔
      e = 0 ∨ ∃ e' ∈ latestExcesses history, e = e' + excess [operation] := by
  constructor
  · rintro ⟨latest, suffix, rfl⟩
    rcases List.suffix_concat_iff.mp suffix with rfl | ⟨earlier, rfl, earlierSuffix⟩
    · exact .inl rfl
    · exact .inr ⟨_, ⟨earlier, earlierSuffix, rfl⟩, excess_append _ _⟩
  · rintro (rfl | ⟨_, ⟨latest, suffix, rfl⟩, rfl⟩)
    · exact ⟨[], List.nil_suffix, rfl⟩
    · refine ⟨latest ++ [operation], ?_, (excess_append _ _).symm⟩
      exact List.suffix_concat_iff.mpr (.inr ⟨latest, rfl, suffix⟩)

/-- One more operation keeps the backlog the greatest excess. -/
theorem isGreatest_count {unfinished : Nat}
    (greatest : IsGreatest (latestExcesses history) unfinished) (operation : Operation) :
    IsGreatest (latestExcesses (history ++ [operation]))
      ((operation.count unfinished : Nat) : Int) := by
  rw [natCast_count]
  constructor
  · rw [mem_latestExcesses_concat]
    rcases le_total 0 ((unfinished : Int) + excess [operation]) with above | below
    · exact .inr ⟨_, greatest.1, max_eq_right above⟩
    · exact .inl (max_eq_left below)
  · intro e member
    rcases mem_latestExcesses_concat.mp member with rfl | ⟨e', earlier, rfl⟩
    · exact le_max_left _ _
    · have bound := greatest.2 earlier
      exact (Int.add_le_add_right bound _).trans (le_max_right _ _)

theorem isGreatest_backlog (history : List Operation) :
    IsGreatest (latestExcesses history) (backlog Nat history) := by
  induction history using List.reverseRecOn with
  | nil =>
      refine ⟨⟨[], List.nil_suffix, rfl⟩, ?_⟩
      rintro e ⟨latest, suffix, rfl⟩
      rw [List.suffix_nil.mp suffix]
      exact le_refl _
  | append_singleton history operation ih =>
      rw [backlog_concat]
      exact isGreatest_count ih operation

theorem excess_le (history : List Operation) :
    excess history ≤ (requestsIn (putIn history)).length := by
  rw [excess]
  omega

/-- The latest operations have no more requests than all of them. -/
theorem excess_le_of_mem {e : Int} (member : e ∈ latestExcesses history) :
    e ≤ (requestsIn (putIn history)).length := by
  obtain ⟨latest, ⟨front, rfl⟩, rfl⟩ := member
  have bound := excess_le latest
  rw [putIn_append, requestsIn_append, List.length_append]
  omega

/-- Has no operation so far left fewer requests than acknowledgements behind it?
Then the whole history has the greatest excess. -/
theorem excess_le_of_covered {e : Int} (member : e ∈ latestExcesses history)
    (covered : ∀ front, front <+: history → 0 ≤ excess front) : e ≤ excess history := by
  obtain ⟨latest, ⟨front, rfl⟩, rfl⟩ := member
  have before := covered front (List.prefix_append front latest)
  rw [excess_append]
  omega

/-! ## Counting in words -/

/-- The word behind an operation is the number unless that is too large, -/
theorem toNat_count {unfinished : UInt64} {operation : Operation}
    (fits : operation.count unfinished.toNat < UInt64.size) :
    (operation.count unfinished).toNat = operation.count unfinished.toNat := by
  cases operation with
  | put item =>
      cases item with
      | request id => exact Counter.toNat_up fits
      | shutdown => rfl
  | take => rfl
  | acknowledge => exact Counter.toNat_down unfinished

/-- and never more. -/
theorem toNat_count_le (unfinished : UInt64) (operation : Operation) :
    (operation.count unfinished).toNat ≤ operation.count unfinished.toNat := by
  cases operation with
  | put item =>
      cases item with
      | request id => exact Counter.toNat_up_le unfinished
      | shutdown => exact Nat.le_refl _
  | take => exact Nat.le_refl _
  | acknowledge => exact (Counter.toNat_down unfinished).le

theorem count_le_count {n m : Nat} (le : n ≤ m) (operation : Operation) :
    operation.count n ≤ operation.count m := by
  have lower := natCast_count n operation
  have upper := natCast_count m operation
  omega

theorem toNat_backlog_le (history : List Operation) :
    (backlog UInt64 history).toNat ≤ backlog Nat history := by
  induction history using List.reverseRecOn with
  | nil => exact Nat.le_refl _
  | append_singleton history operation ih =>
      rw [backlog_concat, backlog_concat]
      exact (toNat_count_le _ operation).trans (count_le_count ih operation)

theorem Countable.of_prefix {front : List Operation} (countable : Countable history)
    (isPrefix : front <+: history) : Countable front :=
  fun stretch inside => countable stretch (inside.trans isPrefix.isInfix)

/-- The backlog of countable operations is the excess of the latest of them, and
so it is a word. -/
theorem Countable.backlog_lt (countable : Countable history) :
    backlog Nat history < UInt64.size := by
  obtain ⟨latest, suffix, same⟩ := (isGreatest_backlog history).1
  have bound := countable latest suffix.isInfix
  rw [← same] at bound
  exact Int.ofNat_lt.mp bound

/-- Fewer than 2⁶⁴ requests are countable whatever else was done. -/
theorem countable_of_length_lt
    (few : (requestsIn (putIn history)).length < UInt64.size) : Countable history := by
  rintro stretch ⟨front, behind, rfl⟩
  have bound := excess_le stretch
  simp only [putIn_append, requestsIn_append, List.length_append] at few
  omega

theorem toNat_backlog (countable : Countable history) :
    (backlog UInt64 history).toNat = backlog Nat history := by
  induction history using List.reverseRecOn with
  | nil => rfl
  | append_singleton history operation ih =>
      have whole := countable.backlog_lt
      have before := ih (countable.of_prefix (List.prefix_append history [operation]))
      rw [backlog_concat, ← before] at whole
      rw [backlog_concat, backlog_concat, ← before]
      exact toNat_count whole

/-- Without acknowledgements the requests are counted modulo 2⁶⁴. -/
theorem backlog_of_not_mem (none : .acknowledge ∉ history) :
    backlog UInt64 history = UInt64.ofNat (requestsIn (putIn history)).length := by
  induction history using List.reverseRecOn with
  | nil => rfl
  | append_singleton history operation ih =>
      rw [List.mem_append, not_or] at none
      rw [backlog_concat, ih none.1, putIn_append, requestsIn_append, List.length_append,
        UInt64.ofNat_add]
      cases operation with
      | put item =>
          cases item with
          | request id => rfl
          | shutdown => exact (UInt64.add_zero _).symm
      | take => exact (UInt64.add_zero _).symm
      | acknowledge => exact absurd (List.mem_singleton_self _) none.2

/-! ## Running a history -/

/-- A queue and what has been taken from it. -/
structure Course where
  taken : List Item
  queue : Queue UInt64
deriving DecidableEq

namespace Course

/-- Carries out an operation.  Taking cannot be done while nothing is waiting. -/
def step? (c : Course) : Operation → Option Course
  | .put item => some { c with queue := c.queue.put item }
  | .take => c.queue.take?.map fun (item, later) => ⟨c.taken ++ [item], later⟩
  | .acknowledge => some { c with queue := c.queue.acknowledge }

/-- What a history has led to. -/
structure Follows (history : List Operation) (c : Course) : Prop where
  items : c.taken ++ c.queue.items = putIn history
  taken : c.taken.length = takesIn history
  unfinished : c.queue.unfinished = backlog UInt64 history

variable {c c' : Course}

theorem follows_step (follows : Follows history c) (stepped : c.step? operation = some c') :
    Follows (history ++ [operation]) c' := by
  obtain ⟨items, taken, unfinished⟩ := follows
  cases operation with
  | put item =>
      cases stepped
      refine ⟨?_, ?_, ?_⟩
      · rw [putIn_append, ← items, Queue.items_put, List.append_assoc]
        rfl
      · rw [takesIn_concat, taken]
        rfl
      · rw [backlog_concat, ← unfinished]
        cases item <;> rfl
  | take =>
      obtain ⟨⟨item, later⟩, front, rfl⟩ := Option.map_eq_some_iff.mp stepped
      obtain ⟨waiting, same⟩ := Queue.take?_eq_some_iff.mp front
      refine ⟨?_, ?_, ?_⟩
      · rw [putIn_append, ← items, waiting, List.append_assoc, List.singleton_append]
        exact (List.append_nil _).symm
      · rw [takesIn_concat, List.length_append, taken]
        rfl
      · rw [backlog_concat, ← unfinished]
        exact same
  | acknowledge =>
      cases stepped
      refine ⟨?_, ?_, ?_⟩
      · rw [putIn_append, ← items]
        exact (List.append_nil _).symm
      · rw [takesIn_concat, taken]
        rfl
      · rw [backlog_concat, ← unfinished]
        rfl

theorem Follows.length_eq (follows : Follows history c) :
    takesIn history + c.queue.length = (putIn history).length := by
  rw [← follows.items, List.length_append, follows.taken, Queue.length]

/-- Whatever waits can be taken, and the rest can always be done. -/
theorem exists_step? (c : Course) (waiting : operation = .take → c.queue.items ≠ []) :
    ∃ c', c.step? operation = some c' := by
  cases operation with
  | put item => exact ⟨_, rfl⟩
  | take =>
      rw [step?]
      cases front : c.queue.take? with
      | none => exact absurd (Queue.take?_eq_none_iff.mp front) (waiting rfl)
      | some taken => exact ⟨_, rfl⟩
  | acknowledge => exact ⟨_, rfl⟩

end Course

namespace Queue

/-- Carries out a history. -/
def after? (q : Queue UInt64) (history : List Operation) : Option Course :=
  history.foldlM Course.step? ⟨[], q⟩

variable {c : Course}

theorem after?_concat (q : Queue UInt64) (history : List Operation) (operation : Operation) :
    q.after? (history ++ [operation]) = (q.after? history).bind (·.step? operation) := by
  rw [after?, List.foldlM_append, ← after?]
  exact bind_congr fun c => bind_pure _

theorem follows_of_after? (led : empty.after? history = some c) : c.Follows history := by
  induction history using List.reverseRecOn generalizing c with
  | nil =>
      cases led
      exact ⟨rfl, rfl, rfl⟩
  | append_singleton history operation ih =>
      rw [after?_concat] at led
      obtain ⟨earlier, ledEarlier, stepped⟩ := Option.bind_eq_some_iff.mp led
      exact Course.follows_step (ih ledEarlier) stepped

end Queue

/-- Is no more taken than has been put, at any time? -/
def Feasible (history : List Operation) : Prop :=
  ∀ front, front <+: history → takesIn front ≤ (putIn front).length

/-- Just these histories can be carried out. -/
theorem Queue.exists_after?_iff : (∃ c, empty.after? history = some c) ↔ Feasible history := by
  induction history using List.reverseRecOn with
  | nil =>
      refine ⟨fun _ front isPrefix => ?_, fun _ => ⟨_, rfl⟩⟩
      rw [List.prefix_nil.mp isPrefix]
      exact Nat.le_refl _
  | append_singleton history operation ih =>
      constructor
      · rintro ⟨c, led⟩ front isPrefix
        have whole := (follows_of_after? led).length_eq
        rw [after?_concat] at led
        obtain ⟨earlier, ledEarlier, -⟩ := Option.bind_eq_some_iff.mp led
        rcases List.prefix_concat_iff.mp isPrefix with rfl | earlierPrefix
        · omega
        · exact ih.mp ⟨earlier, ledEarlier⟩ front earlierPrefix
      · intro feasible
        obtain ⟨earlier, led⟩ := ih.mpr fun front isPrefix =>
          feasible front (isPrefix.trans (List.prefix_append history [operation]))
        obtain ⟨c, stepped⟩ : ∃ c, earlier.step? operation = some c := by
          apply earlier.exists_step?
          rintro rfl nothing
          -- One more item would be taken than has been put.
          have all := feasible _ (List.prefix_refl _)
          have before := (follows_of_after? led).length_eq
          rw [takesIn_concat, if_pos rfl, putIn_append, putIn_singleton, List.length_append] at all
          rw [Queue.length, nothing, List.length_nil] at before
          change _ ≤ _ + 0 at all
          omega
        refine ⟨c, ?_⟩
        rw [after?_concat, led]
        exact stepped

/-! ## The two ways in which a queue comes into being -/

/-- A queue starts out empty or with the work of a run. -/
inductive Origin
  | new
  | seeded (total : UInt64) (workers : Nat)

namespace Origin

def queue : Origin → Queue UInt64
  | new => .empty
  | seeded total workers => .seeded total workers

/-- What is in the queue from the start: the requests, and behind them a stop
signal for each worker. -/
def items : Origin → List Item
  | new => []
  | seeded total workers => Queue.requests total ++ List.replicate workers .shutdown

/-- The operations from the start on: what is in the queue was put. -/
def wholeHistory (origin : Origin) (operations : List Operation) : List Operation :=
  origin.items.map .put ++ operations

theorem putIn_wholeHistory (origin : Origin) (operations : List Operation) :
    putIn (origin.wholeHistory operations) = origin.items ++ putIn operations := by
  rw [wholeHistory, putIn_append, putIn_map_put]

theorem queue_eq_putAll (origin : Origin) : origin.queue = Queue.empty.putAll origin.items := by
  cases origin with
  | new => rfl
  | seeded total workers => exact Queue.seeded_eq_putAll total workers

end Origin

theorem Queue.after?_append (q : Queue UInt64) (items : List Item) (operations : List Operation) :
    q.after? (items.map .put ++ operations) = (q.putAll items).after? operations := by
  induction items generalizing q with
  | nil => rfl
  | cons item items ih => exact ih (q.put item)

theorem Origin.after?_eq (origin : Origin) (operations : List Operation) :
    origin.queue.after? operations = Queue.empty.after? (origin.wholeHistory operations) := by
  rw [queue_eq_putAll, wholeHistory, Queue.after?_append]

/-! ## The queue and its history -/

/-- What a history says about the queue that it led to from the empty one. -/
structure Course.Mirrors (history : List Operation) (c : Course) : Prop where
  /-- First in, first out: nothing is lost, made up or moved. -/
  items : c.taken ++ c.queue.items = putIn history
  length : (c.queue.length : Int) = (putIn history).length - c.taken.length
  isEmpty_iff : c.queue.isEmpty = true ↔ c.queue.length = 0
  unfinished : Countable history →
    IsGreatest (latestExcesses history) c.queue.unfinished.toNat
  bounded : c.queue.unfinished.toNat ≤ (requestsIn (putIn history)).length
  /-- As long as every acknowledgement has a request in front of it, none is forgotten. -/
  covered : Countable history →
    (∀ front, front <+: history →
      acknowledgementsIn front ≤ (requestsIn (putIn front)).length) →
    c.queue.unfinished.toNat + acknowledgementsIn history = (requestsIn (putIn history)).length
  /-- Stop signals and takes have no part in it. -/
  unaffected : ∀ ⦃history' : List Operation⦄ ⦃c' : Course⦄,
    Queue.empty.after? history' = some c' →
      history'.filter Operation.counts = history.filter Operation.counts →
        c'.queue.unfinished = c.queue.unfinished
  /-- Requests that nothing acknowledges are counted modulo 2⁶⁴, countable or not. -/
  unacknowledged : .acknowledge ∉ history →
    c.queue.unfinished = UInt64.ofNat (requestsIn (putIn history)).length

namespace Queue

theorem mirrors_of_after? {c : Course} (led : empty.after? history = some c) :
    c.Mirrors history := by
  have follows := follows_of_after? led
  have greatest : Countable history →
      IsGreatest (latestExcesses history) c.queue.unfinished.toNat := by
    intro countable
    rw [follows.unfinished, toNat_backlog countable]
    exact isGreatest_backlog history
  refine ⟨follows.items, ?_, ?_, greatest, ?_, ?_, ?_, ?_⟩
  · have length := follows.length_eq
    rw [follows.taken]
    omega
  · rw [isEmpty, List.isEmpty_iff, length, List.length_eq_zero_iff]
  · have most := excess_le_of_mem (isGreatest_backlog history).1
    rw [follows.unfinished]
    exact (toNat_backlog_le history).trans (Int.ofNat_le.mp most)
  · intro countable covered
    have whole : excess history ∈ latestExcesses history := ⟨history, List.suffix_refl _, rfl⟩
    have least := (greatest countable).2 whole
    have most : c.queue.unfinished.toNat ≤ excess history := by
      apply excess_le_of_covered (greatest countable).1
      intro front isPrefix
      have enough := covered front isPrefix
      rw [excess]
      omega
    rw [excess] at least most
    omega
  · intro history' c' led' same
    rw [follows.unfinished, (follows_of_after? led').unfinished, ← backlog_filter, same,
      backlog_filter]
  · intro none
    rw [follows.unfinished, backlog_of_not_mem none]

/-- A history can be carried out just when no take comes too early, and then it
tells everything about the queue; fewer than 2⁶⁴ requests are countable.  What the
queue began with counts as put: for the queue of a run the requests from one to their
total, and then the stop signals. -/
theorem histories_reflected (origin : Origin) (operations : List Operation) :
    ((∃ c, origin.queue.after? operations = some c) ↔
        Feasible (origin.wholeHistory operations)) ∧
      (∀ c, origin.queue.after? operations = some c →
        c.Mirrors (origin.wholeHistory operations)) ∧
      ((requestsIn (putIn (origin.wholeHistory operations))).length < UInt64.size →
        Countable (origin.wholeHistory operations)) ∧
      putIn (origin.wholeHistory operations) = origin.items ++ putIn operations ∧
      ∀ total workers, ∃ ids : List UInt64,
        (Origin.seeded total workers).items =
            ids.map .request ++ List.replicate workers .shutdown ∧
          ids.map UInt64.toNat = List.range' 1 total.toNat := by
  refine ⟨?_, ?_, countable_of_length_lt, origin.putIn_wholeHistory operations, ?_⟩
  · rw [origin.after?_eq]
    exact exists_after?_iff
  · intro c led
    rw [origin.after?_eq] at led
    exact mirrors_of_after? led
  · intro total workers
    refine ⟨requestsIn (requests total), ?_, map_toNat_requestsIn_requests total⟩
    rw [map_requestsIn_requests, Origin.items]

/-- Two requests, a stop signal and three acknowledgements: the third is
forgotten, so that the request put behind it is unfinished although there are as
many acknowledgements as requests. -/
theorem histories_reflected_forgotten :
    let operations : List Operation :=
      [.acknowledge, .acknowledge, .acknowledge, .take, .put (.request 7), .put .shutdown]
    let history := (Origin.seeded 2 1).wholeHistory operations
    Feasible history ∧ Countable history ∧ excess history = 0 ∧
      ∃ c, (Origin.seeded 2 1).queue.after? operations = some c ∧ c.Mirrors history ∧
        c.taken = [.request 1] ∧
        c.queue.items = [.request 2, .shutdown, .request 7, .shutdown] ∧
        c.queue.unfinished = 1 ∧
        IsGreatest (latestExcesses history) 1 := by
  intro operations history
  have led : (Origin.seeded 2 1).queue.after? operations =
      some ⟨[.request 1], [.request 2, .shutdown, .request 7, .shutdown], 1⟩ := by
    decide
  obtain ⟨possible, mirrored, countable, -⟩ := histories_reflected (.seeded 2 1) operations
  have few : Countable history := countable (by decide)
  exact ⟨possible.mp ⟨_, led⟩, few, by decide, _, led, mirrored _ led, rfl, rfl, rfl,
    (mirrored _ led).unfinished few⟩

end Queue

end ReservationLoad.Work

import Mathlib.Logic.Function.Iterate
import ReservationLoad.Work.Queue

/-!
# Requests and stop signals in a list of items

Counting and cutting lists of items: the requests among them in their order,
and the part up to a given stop signal with the part behind it.  A pool of
`n` workers works off exactly the items up to the `n`-th stop signal.
-/

namespace ReservationLoad.Work

/-- The request that an item carries. -/
def Item.request? : Item → Option UInt64
  | .request id => some id
  | .shutdown => none

/-- The requests among some items, in order. -/
def requestsIn (items : List Item) : List UInt64 := items.filterMap Item.request?

/-- The number of stop signals among some items. -/
def stopsIn (items : List Item) : Nat := items.count .shutdown

@[simp]
theorem requestsIn_nil : requestsIn [] = [] := rfl

@[simp]
theorem requestsIn_request (id : UInt64) (later : List Item) :
    requestsIn (.request id :: later) = id :: requestsIn later := rfl

@[simp]
theorem requestsIn_shutdown (later : List Item) :
    requestsIn (.shutdown :: later) = requestsIn later := rfl

@[simp]
theorem requestsIn_singleton (item : Item) : requestsIn [item] = item.request?.toList := by
  cases item <;> rfl

@[simp]
theorem requestsIn_append (first second : List Item) :
    requestsIn (first ++ second) = requestsIn first ++ requestsIn second := by
  simp [requestsIn]

@[simp]
theorem requestsIn_replicate_shutdown (count : Nat) :
    requestsIn (List.replicate count .shutdown) = [] := by
  induction count with
  | zero => rfl
  | succ count ih => rw [List.replicate_succ, requestsIn_shutdown, ih]

@[simp]
theorem stopsIn_nil : stopsIn [] = 0 := rfl

@[simp]
theorem stopsIn_request (id : UInt64) (later : List Item) :
    stopsIn (.request id :: later) = stopsIn later := by
  simp [stopsIn]

@[simp]
theorem stopsIn_shutdown (later : List Item) :
    stopsIn (.shutdown :: later) = stopsIn later + 1 := by
  simp [stopsIn]

@[simp]
theorem stopsIn_append (first second : List Item) :
    stopsIn (first ++ second) = stopsIn first + stopsIn second := by
  simp [stopsIn]

@[simp]
theorem stopsIn_replicate_shutdown (count : Nat) :
    stopsIn (List.replicate count .shutdown) = count := by
  simp [stopsIn]

/-! ## Cutting at a stop signal -/

/-- The items up to the given number of stop signals, the last of these
included. -/
def upToStops : Nat → List Item → List Item
  | 0, _ => []
  | _ + 1, [] => []
  | stops + 1, .request id :: later => .request id :: upToStops (stops + 1) later
  | stops + 1, .shutdown :: later => .shutdown :: upToStops stops later

/-- The items behind the given number of stop signals. -/
def afterStops : Nat → List Item → List Item
  | 0, items => items
  | _ + 1, [] => []
  | stops + 1, .request _ :: later => afterStops (stops + 1) later
  | stops + 1, .shutdown :: later => afterStops stops later

theorem upToStops_append_afterStops (stops : Nat) (items : List Item) :
    upToStops stops items ++ afterStops stops items = items := by
  fun_induction upToStops stops items with
  | case1 => simp [afterStops]
  | case2 => rfl
  | case3 stops id later ih => simpa [afterStops] using ih
  | case4 stops later ih => simpa [afterStops] using ih

theorem requestsIn_upToStops_append (stops : Nat) (items : List Item) :
    requestsIn (upToStops stops items) ++ requestsIn (afterStops stops items) =
      requestsIn items := by
  rw [← requestsIn_append, upToStops_append_afterStops]

/-! ## The items of a run -/

@[simp]
theorem requestsIn_requests (total : UInt64) :
    requestsIn (Queue.requests total) =
      (List.range total.toNat).map fun i => UInt64.ofNat (i + 1) := by
  unfold requestsIn Queue.requests
  rw [List.filterMap_map, ← List.filterMap_eq_map]
  rfl

theorem map_requestsIn_requests (total : UInt64) :
    (requestsIn (Queue.requests total)).map Item.request = Queue.requests total := by
  rw [requestsIn_requests, List.map_map]
  rfl

@[simp]
theorem stopsIn_requests (total : UInt64) : stopsIn (Queue.requests total) = 0 := by
  simp [stopsIn, Queue.requests, List.count_eq_zero]

attribute [ext] Queue

/-- Requests in front of the first stop signal are cut off with it. -/
theorem afterStops_map_request_append (stops : Nat) (requests : List UInt64)
    (later : List Item) :
    afterStops (stops + 1) (requests.map .request ++ later) = afterStops (stops + 1) later := by
  induction requests with
  | nil => rfl
  | cons request requests ih => simpa [afterStops] using ih

/-- Behind all of some stop signals there is nothing. -/
theorem afterStops_replicate_shutdown (stops : Nat) :
    afterStops stops (List.replicate stops .shutdown) = [] := by
  induction stops with
  | zero => simp [afterStops]
  | succ stops ih => simpa [List.replicate_succ, afterStops] using ih

/-! ## Counting -/

namespace Counter

theorem iterate_up (times n : Nat) : up^[times] n = n + times := by
  induction times with
  | zero => rfl
  | succ times ih =>
      rw [Function.iterate_succ_apply', ih]
      rfl

theorem iterate_up_word (times : Nat) (n : UInt64) : up^[times] n = n + UInt64.ofNat times := by
  induction times with
  | zero => exact (UInt64.add_zero n).symm
  | succ times ih =>
      rw [Function.iterate_succ_apply', ih, UInt64.ofNat_add, ← UInt64.add_assoc]
      rfl

end Counter

namespace Queue

/-- Taking changes nothing but the items that wait. -/
theorem exists_later_of_take? {q rest : Queue} {item : Item} (taken : q.take? = some (item, rest)) :
    ∃ later, q.items = item :: later ∧ rest = { q with items := later } := by
  rcases take?_eq_some_iff.mp taken with ⟨front, same⟩
  exact ⟨rest.items, front, Queue.ext rfl same⟩

/-- Nothing is left of the queue of a run behind its last stop signal, -/
theorem afterStops_seeded (total : UInt64) {workers : Nat} (some : 0 < workers) :
    afterStops workers (seeded total workers).items = [] := by
  rcases Nat.exists_eq_add_of_lt some with ⟨others, rfl⟩
  rw [Nat.zero_add, seeded, ← map_requestsIn_requests, afterStops_map_request_append,
    afterStops_replicate_shutdown]

/-- and in front of it are all requests. -/
theorem requestsIn_upToStops_seeded (total : UInt64) {workers : Nat} (some : 0 < workers) :
    requestsIn (upToStops workers (seeded total workers).items) =
      requestsIn (requests total) := by
  have parts := requestsIn_upToStops_append workers (seeded total workers).items
  rw [afterStops_seeded total some] at parts
  simpa [seeded] using parts

theorem requestsIn_seeded (total : UInt64) (workers : Nat) :
    requestsIn (seeded total workers).items = requestsIn (requests total) := by
  simp [seeded]

/-- The requests are numbered from one to their total, -/
theorem map_toNat_requestsIn_requests (total : UInt64) :
    (requestsIn (requests total)).map UInt64.toNat = List.range' 1 total.toNat := by
  rw [requestsIn_requests, List.map_map, List.range'_eq_map_range]
  apply List.map_congr_left
  intro place inside
  have bound : total.toNat < UInt64.size := total.toNat_lt
  have below := List.mem_range.mp inside
  rw [Function.comp_apply, UInt64.toNat_ofNat_of_lt' (by omega), Nat.add_comm]

/-- in ascending order. -/
theorem requestsIn_requests_pairwise (total : UInt64) :
    (requestsIn (requests total)).Pairwise (· < ·) := by
  have ascending : ((requestsIn (requests total)).map UInt64.toNat).Pairwise (· < ·) := by
    rw [map_toNat_requestsIn_requests]
    exact List.pairwise_lt_range'
  exact (List.pairwise_map.mp ascending).imp fun less => UInt64.lt_iff_toNat_lt.mpr less

theorem length_requestsIn_requests (total : UInt64) :
    (requestsIn (requests total)).length = total.toNat := by
  simp

theorem length_requestsIn_upToStops_seeded (total : UInt64) {workers : Nat}
    (some : 0 < workers) :
    (requestsIn (upToStops workers (seeded total workers).items)).length = total.toNat := by
  rw [requestsIn_upToStops_seeded total some, length_requestsIn_requests]

theorem stopsIn_seeded (total : UInt64) (workers : Nat) :
    stopsIn (seeded total workers).items = workers := by
  simp [seeded]

/-- Only a request is counted. -/
@[simp]
theorem unfinished_announce (q : Queue) (item : Item) :
    (q.announce item).unfinished = q.unfinished + item.request?.toList.length := by
  cases item <;> rfl

/-- Putting items counts as many times up as there are requests among them. -/
theorem unfinished_putAll_eq_iterate {κ : Type} [Counter κ] (q : Queue κ) (items : List Item) :
    (q.putAll items).unfinished = Counter.up^[(requestsIn items).length] q.unfinished := by
  induction items generalizing q with
  | nil => rfl
  | cons item later ih => cases item <;> exact ih (q.put _)

@[simp]
theorem unfinished_putAll (q : Queue) (items : List Item) :
    (q.putAll items).unfinished = q.unfinished + (requestsIn items).length := by
  rw [unfinished_putAll_eq_iterate, Counter.iterate_up]

/-- The queue of a run is what putting the requests one after another and
then the stop signals leads to. -/
theorem seeded_eq_putAll (total : UInt64) (workers : Nat) :
    (seeded total workers : Queue UInt64) =
      empty.putAll (requests total ++ List.replicate workers .shutdown) := by
  apply Queue.ext
  · rw [items_putAll]
    rfl
  · rw [unfinished_putAll_eq_iterate, Counter.iterate_up_word, requestsIn_append,
      requestsIn_replicate_shutdown, List.append_nil, length_requestsIn_requests,
      UInt64.ofNat_toNat]
    exact (UInt64.zero_add total).symm

end Queue

end ReservationLoad.Work

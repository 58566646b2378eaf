import ReservationLoad.Proofs.Pool.StopSignals

/-!
# What is reported of requests

Of every request that was posted at most one event is reported, and what it
says is fixed by the post: only the worker and the measured time come from
elsewhere.  `Log.Event.outline` leaves these two out.  At every moment of a run
the outlines that were reported, together with those that workers are about to
report, are those of the posts (`Run.outlines`), so that whatever settles the
posts of a run settles its log.
-/

namespace ReservationLoad

open Chance

namespace Log

/-- What an event says apart from whom it comes from and how long things
took. -/
structure Outline where
  level : Level
  message : String
  fields : List (String × Field)

def Event.outline (e : Event) : Outline where
  level := e.level
  message := e.message
  fields := e.fields.filter fun field => field.1 ≠ "worker" ∧ field.1 ≠ "latency_ms"

/-- The events of a log that are about requests. -/
def aboutRequests (log : List Event) : List Event := log.filter fun e => e.request?.isSome

end Log

/-- The outline of the event that reports on a post, if there is one. -/
def Post.outline? (logEvery : UInt64) (post : Post) : Option Log.Outline :=
  (requestEvent? logEvery post.worker post.request post.reservation
    ⟨post.outcome, .zero⟩).map Log.Event.outline

/-- Neither the worker nor the time shows in the outline. -/
theorem outline_requestEvent? (logEvery : UInt64) (worker other : Nat) (request : UInt64)
    (reservation : Reservation) (reply : Reply) :
    (requestEvent? logEvery worker request reservation reply).map Log.Event.outline =
      Post.outline? logEvery ⟨other, request, reservation, reply.outcome⟩ := by
  unfold Post.outline? requestEvent?
  cases reply.outcome with
  | answered status =>
      simp only
      split
      · rfl
      · split <;> rfl
  | failed causes => rfl
  | crashed message => rfl

theorem request?_of_requestEvent? {logEvery request : UInt64} {worker : Nat}
    {reservation : Reservation} {reply : Reply} {e : Log.Event}
    (made : requestEvent? logEvery worker request reservation reply = some e) :
    e.request? = some request := by
  unfold requestEvent? at made
  split at made
  · split at made
    · cases made
      rfl
    · split at made
      · cases made
        rfl
      · cases made
  · cases made
    rfl
  · cases made
    rfl

/-- The outlines of the events that are due to some posts. -/
def outlines (logEvery : UInt64) (posts : List Post) : Multiset Log.Outline :=
  posts.filterMap (Post.outline? logEvery)

@[simp]
theorem outlines_nil (logEvery : UInt64) : outlines logEvery [] = 0 := rfl

theorem outlines_cons (logEvery : UInt64) (post : Post) (posts : List Post) :
    outlines logEvery (post :: posts) =
      (post.outline? logEvery).toList + outlines logEvery posts := by
  cases due : post.outline? logEvery <;> simp [outlines, due]

/-- The outline that is due to the post a worker has made and not reported. -/
def Worker.unreported {σ : Type} (logEvery : UInt64) (w : Worker σ) : Multiset Log.Outline :=
  match w.stage with
  | .reporting request reservation reply =>
    (Post.outline? logEvery ⟨0, request, reservation, reply.outcome⟩).toList
  | _ => 0

/-- The outlines of what was reported. -/
def Shared.reported (shared : Shared) : Multiset Log.Outline :=
  shared.events.map Log.Event.outline

namespace Worker.Moves

variable {σ : Type} [WordSource σ] {settings : PoolSettings} {answer : Reservation → Reply}
  {id : Nat} {deed : Deed} {me me' : Worker σ} {shared shared' : Shared}

/-- An outline falls due with a post and stays due until it is reported. -/
theorem outlines (move : Worker.Moves settings answer id deed me shared me' shared') :
    me'.unreported settings.logEvery + shared'.reported +
        ReservationLoad.outlines settings.logEvery shared.posts =
      me.unreported settings.logEvery + shared.reported +
        ReservationLoad.outlines settings.logEvery shared'.posts := by
  cases move with
  | @post stream processed request reservation shared =>
      rw [outlines_cons, ← outline_requestEvent? _ 0 id _ _ (answer reservation),
        outline_requestEvent? _ 0 0]
      simp only [unreported, Shared.reported]
      abel
  | @report stream processed request reservation reply shared =>
      have due := outline_requestEvent? settings.logEvery id 0 request reservation reply
      simp only [unreported, Shared.reported, List.map_append, ← Multiset.coe_add,
        ← Option.toList_map, due]
      abel
  | _ => rfl

/-- Workers report of requests and of nothing else. -/
theorem events (move : Worker.Moves settings answer id deed me shared me' shared') :
    ∀ e ∈ shared'.events, e ∈ shared.events ∨ e.request?.isSome := by
  cases move with
  | report =>
      intro e member
      rcases List.mem_append.mp member with new | old
      · rw [Option.mem_toList] at new
        exact .inr (by rw [request?_of_requestEvent? new]; rfl)
      · exact .inl old
  | _ => exact fun e member => .inl member

end Worker.Moves

namespace Pool

variable {σ : Type} [WordSource σ] {settings : PoolSettings} {history : History} {p q : Pool σ}

/-- What was reported and what is due are the outlines of the posts. -/
theorem Run.outlines (run : Run settings p history q) :
    q.tally (Worker.unreported settings.logEvery) + q.shared.reported +
        ReservationLoad.outlines settings.logEvery p.shared.posts =
      p.tally (Worker.unreported settings.logEvery) + p.shared.reported +
        ReservationLoad.outlines settings.logEvery q.shared.posts :=
  run.transfer (Worker.unreported settings.logEvery)
    (fun shared => ReservationLoad.outlines settings.logEvery shared.posts) Shared.reported
    fun move => move.outlines

theorem Run.events (run : Run settings p history q) :
    ∀ e ∈ q.shared.events, e ∈ p.shared.events ∨ e.request?.isSome := by
  refine run.sharedInvariant
    (fun _ shared => ∀ e ∈ shared.events, e ∈ p.shared.events ∨ e.request?.isSome)
    ?_ fun e member => .inl member
  intro answer id deed shared shared' history me me' move before e member
  exact (move.events e member).elim (before e) .inr

section Start

variable {streams : Nat → σ} {workers : Nat} {queue : Work.Queue} {collector : Collector}
  {posts : List Post}

/-- At the end all that is due to the new posts has been reported. -/
theorem Run.reported
    (run : Run settings (start streams workers queue collector posts) history p)
    (ended : p.hasEnded = true) :
    p.shared.reported + ReservationLoad.outlines settings.logEvery posts =
      ReservationLoad.outlines settings.logEvery p.shared.posts := by
  have account := run.outlines
  have nothing : p.tally (Worker.unreported settings.logEvery) = 0 := by
    apply tally_eq_zero
    intro w member
    have halted := List.all_eq_true.mp ended w member
    unfold Worker.hasEnded at halted
    unfold Worker.unreported
    cases stage : w.stage <;> simp_all
  rw [nothing, tally_start _ _ _ _ _ fun _ => rfl, zero_add, zero_add] at account
  simpa [Shared.reported] using account

/-- The pool itself tells of no request. -/
theorem Run.aboutRequests_eventLog
    (run : Run settings (start streams workers queue collector posts) history p) :
    Log.aboutRequests p.eventLog = p.shared.events.reverse := by
  have during : p.shared.events.reverse.filter (fun e => e.request?.isSome) =
      p.shared.events.reverse := by
    rw [List.filter_eq_self]
    intro e member
    exact (run.events e (List.mem_reverse.mp member)).resolve_left List.not_mem_nil
  have joining : (p.joined.map (·.1)).filter (fun e => e.request?.isSome) = [] := by
    rw [List.filter_eq_nil_iff]
    intro e member about
    rcases List.mem_map.mp member with ⟨result, joined, rfl⟩
    rcases List.mem_mapIdx.mp joined with ⟨id, inside, rfl⟩
    unfold joinWorker at about
    split at about <;> cases about
  rw [Log.aboutRequests, eventLog, List.filter_cons_of_neg (by simp [Log.Event.request?]),
    List.filter_append, during, joining, List.append_nil]

end Start

end Pool

end ReservationLoad

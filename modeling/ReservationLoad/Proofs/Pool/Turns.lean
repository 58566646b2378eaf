import ReservationLoad.Proofs.LoadTest.ExactlyOnce

/-!
# Turns of workers

Threads that share a pool do not keep what has happened: each turn of a worker
hands out its events and leaves a pool without them.  Such turns are the steps of a
run all the same.  What a step does depends on no post and no event in front of it,
so the pool that a run would have come to is the one that the turns leave, with the
posts and the told events behind it.
-/

namespace ReservationLoad

open Chance

/-- What is shared, with earlier posts and events behind its own. -/
def Shared.behind (shared : Shared) (posts : List Post) (events : List Log.Event) : Shared :=
  { shared with posts := shared.posts ++ posts, events := shared.events ++ events }

variable {σ : Type} [WordSource σ] {settings : PoolSettings} {answer : Reservation → Reply}
  {id : Nat} {deed : Deed} {posts : List Post} {events told : List Log.Event}

/-- A worker moves in the same way, whatever was posted and told before. -/
theorem Worker.Moves.behind {me me' : Worker σ} {shared shared' : Shared}
    (move : Moves settings answer id deed me shared me' shared') (posts : List Post)
    (events : List Log.Event) :
    Moves settings answer id deed me (shared.behind posts events) me'
      (shared'.behind posts events) := by
  cases move with
  | takeRequest front => exact .takeRequest front
  | takeShutdown front => exact .takeShutdown front
  | compose drawn => exact .compose drawn
  | die refused => exact .die refused
  | post => exact .post
  | @report stream processed request reservation reply =>
      have joined := List.append_assoc
        (requestEvent? settings.logEvery id request reservation reply).toList shared.events events
      simp only [Shared.behind, joined]
      exact .report
  | record => exact .record
  | acknowledge => exact .acknowledge
  | count => exact .count

namespace Pool

/-- A pool with earlier posts and events behind its own. -/
def behind (p : Pool σ) (posts : List Post) (events : List Log.Event) : Pool σ :=
  { p with shared := p.shared.behind posts events }

variable {p q r : Pool σ}

theorem stepWith?_behind (step : p.stepWith? settings answer id = some q) (posts : List Post)
    (events : List Log.Event) :
    (p.behind posts events).stepWith? settings answer id = some (q.behind posts events) := by
  obtain ⟨deed, me, me', shared', found, -, move, rfl⟩ := moves_of_stepWith? step
  exact stepWith?_eq_some_iff.mpr ⟨me, me', _, found, (move.behind posts events).step?, rfl⟩

omit [WordSource σ] in
/-- A pool is what it is without its posts and events, with them behind it. -/
theorem behind_forget (p : Pool σ) (posts : List Post) (events : List Log.Event) :
    p.forget.behind (p.shared.posts ++ posts) (p.shared.events ++ events) =
      p.behind posts events := rfl

/-- Turns of workers, one after another, with the events that they hand out. -/
inductive Turns (settings : PoolSettings) (p : Pool σ) : List Log.Event → Pool σ → Prop
  | none : Turns settings p [] p
  | turn {told events : List Log.Event} {q r : Pool σ} {reply : Reply} {id : Nat}
      (before : Turns settings p told q) (turn : q.turn? settings reply id = some (events, r)) :
      Turns settings p (told ++ events) r

/-- Turns are the steps of a run that keeps what they hand out. -/
theorem exists_run_of_turns (fresh : p.forget = p) (turns : Turns settings p told q) :
    ∃ history posts, Run settings p history (q.behind posts told.reverse) := by
  induction turns with
  | none =>
      have nothing : p.behind [] [] = p := by
        rw [← fresh]
        rfl
      exact ⟨[], [], nothing.symm ▸ .refl⟩
  | @turn told events q r reply id before turn ih =>
      obtain ⟨history, posts, run⟩ := ih
      obtain ⟨next, step, same⟩ := Option.map_eq_some_iff.mp turn
      cases same
      obtain ⟨deed, longer⟩ := run.continue (stepWith?_behind step posts told.reverse)
      refine ⟨(id, deed) :: history, next.shared.posts ++ posts, ?_⟩
      rw [List.reverse_append, List.reverse_reverse, behind_forget]
      exact longer

end Pool

/-- Turns that have worked off a load test account for all of its requests, and make the
report that a run would make. -/
theorem LoadTest.exactly_once_of_turns {config : Config} (some : 0 < config.load.workers)
    (streams : Nat → σ) {q : Pool σ}
    (turns : Pool.Turns (LoadTest.settings config) (initial config streams) told q)
    (ended : q.hasEnded = true) (arithmetic : Arithmetic) (elapsed : Calendar.Span) :
    ∃ history posts, ExactlyOnce config elapsed history (q.behind posts told.reverse) ∧
      report arithmetic config elapsed q =
        report arithmetic config elapsed (q.behind posts told.reverse) := by
  obtain ⟨history, posts, run⟩ := Pool.exists_run_of_turns rfl turns
  exact ⟨history, posts, exactly_once config some streams run ended elapsed, rfl⟩

end ReservationLoad

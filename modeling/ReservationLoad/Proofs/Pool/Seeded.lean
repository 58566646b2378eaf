import ReservationLoad.Proofs.Pool.History

/-!
# Pools with a seed

A generator with a seed draws the reservation for a request from a stream of
its own, which starts from the seed and the request's number
(`Tables.sample`).  So every post of a seeded pool carries the sample of its
request, whichever worker made it and when, and the streams of the workers
stay where they were.
-/

namespace ReservationLoad

open Chance

/-- The reservation that a seed and a request determine. -/
def Tables.sample (tables : Tables) (seed request : UInt64) : Except DrawFault Reservation :=
  (tables.draw (Cipher.ofSeed (Generator.requestSeed seed request))).map Prod.fst

variable {σ : Type} [WordSource σ]

/-- A generator with a seed composes the sample of the request and leaves the
worker's stream alone. -/
theorem Generator.sample_of_drawFor {g : Generator} {seed request : UInt64}
    (seeded : g.seed = some seed) {stream next : σ} {reservation : Reservation}
    (drawn : g.drawFor request stream = .ok (reservation, next)) :
    g.tables.sample seed request = .ok reservation ∧ next = stream := by
  simp only [drawFor, seeded] at drawn
  unfold Tables.sample
  cases composed : g.tables.draw (Cipher.ofSeed (requestSeed seed request)) with
  | error fault =>
      rw [composed] at drawn
      cases drawn
  | ok result =>
      rw [composed] at drawn
      cases drawn
      exact ⟨rfl, rfl⟩

/-- Is the reservation that a worker is about to post the sample of its
request? -/
def Worker.Faithful (tables : Tables) (seed : UInt64) (w : Worker σ) : Prop :=
  ∀ request reservation, w.stage = .posting request reservation →
    tables.sample seed request = .ok reservation

namespace Worker.Moves

variable {settings : PoolSettings} {answer : Reservation → Reply} {id : Nat} {deed : Deed}
  {me me' : Worker σ} {shared shared' : Shared} {seed : UInt64}

section Seed

variable (seeded : settings.generator.seed = some seed)
  (move : Worker.Moves settings answer id deed me shared me' shared')

include seeded move

theorem stream_of_seeded : me'.stream = me.stream := by
  cases move with
  | compose drawn => exact (Generator.sample_of_drawFor seeded drawn).2
  | _ => rfl

theorem faithful : me'.Faithful settings.generator.tables seed := by
  cases move with
  | compose drawn =>
      rintro _ _ ⟨⟩
      exact (Generator.sample_of_drawFor seeded drawn).1
  | _ => rintro _ _ ⟨⟩

end Seed

/-- A new post is made by the worker that moves, of what it was about to
post, and its outcome is that of the answer. -/
theorem posted (move : Worker.Moves settings answer id deed me shared me' shared') :
    ∀ post ∈ shared'.posts, post ∈ shared.posts ∨
      post.worker = id ∧ me.stage = .posting post.request post.reservation ∧
        post.outcome = (answer post.reservation).outcome := by
  cases move with
  | post =>
      intro post member
      rcases List.mem_cons.mp member with rfl | old
      · exact .inr ⟨rfl, rfl, rfl⟩
      · exact .inl old
  | _ => exact fun post member => .inl member

end Worker.Moves

namespace Pool

variable {settings : PoolSettings} {transport : Transport} {history : History}
  {p q : Pool σ} {seed : UInt64}

/-- New posts come from the workers of the pool. -/
theorem Run.worker_lt (run : Run settings p history q) :
    ∀ post ∈ q.shared.posts, post ∈ p.shared.posts ∨ post.worker < p.workers.length := by
  induction run with
  | refl => exact fun post member => .inl member
  | @step q r history id deed answer before next step ih =>
      intro post member
      rcases moves_of_deed? next step with ⟨me, me', shared', found, move, rfl⟩
      rcases move.posted post member with old | ⟨rfl, _, _⟩
      · exact ih post old
      · rw [← before.length_workers]
        exact .inr (List.getElem?_eq_some_iff.mp found).1

/-- The streams of the workers of a seeded pool stay where they are, -/
theorem Run.stream_of_seeded (seeded : settings.generator.seed = some seed)
    (run : Run settings p history q) {id : Nat} {first me : Worker σ}
    (start : p.workers[id]? = some first) (found : q.workers[id]? = some me) :
    me.stream = first.stream := by
  refine run.localInvariant id (fun _ w _ => w.stream = first.stream) ?own ?other ?start me found
  case own =>
    intro answer deed shared shared' history me me' move before
    rw [move.stream_of_seeded seeded, before]
  case other =>
    intro answer other deed shared shared' history me they they' different move before
    exact before
  case start =>
    intro me same
    rw [Option.some.inj (start.symm.trans same)]

/-- and its posts carry the samples of their requests. -/
theorem Run.sampled (seeded : settings.generator.seed = some seed)
    (run : Run settings p history q)
    (faithful : ∀ w ∈ p.workers, w.Faithful settings.generator.tables seed)
    (sampled : ∀ post ∈ p.shared.posts,
      settings.generator.tables.sample seed post.request = .ok post.reservation) :
    ∀ post ∈ q.shared.posts,
      settings.generator.tables.sample seed post.request = .ok post.reservation := by
  have both := run.invariant
    (fun _ r => (∀ w ∈ r.workers, w.Faithful settings.generator.tables seed) ∧
      ∀ post ∈ r.shared.posts,
        settings.generator.tables.sample seed post.request = .ok post.reservation)
    ?_ ⟨faithful, sampled⟩
  · exact both.2
  intro h q r id deed answer before next step
  rcases moves_of_deed? next step with ⟨me, me', shared', found, move, rfl⟩
  constructor
  · intro w member
    rcases List.mem_or_eq_of_mem_set member with old | rfl
    · exact before.1 w old
    · exact move.faithful seeded
  · intro post member
    rcases move.posted post member with old | ⟨_, posting, _⟩
    · exact before.2 post old
    · exact before.1 me (List.mem_of_getElem? found) _ _ posting

/-- Over a transport whose outcomes are settled by what it delivers, the
outcomes of the posts are. -/
theorem Reaches.outcomes {outcome : Reservation → Outcome}
    (steady : ∀ before reservation, (transport.post before reservation).outcome =
      outcome reservation)
    (reached : Reaches settings transport p q)
    (settled : ∀ post ∈ p.shared.posts, post.outcome = outcome post.reservation) :
    ∀ post ∈ q.shared.posts, post.outcome = outcome post.reservation := by
  induction reached with
  | refl => exact settled
  | tail _ steps ih =>
      rcases steps with ⟨id, step⟩
      rcases moves_of_stepWith? step with ⟨_, _, _, _, _, _, move, rfl⟩
      intro post member
      rcases move.posted post member with old | ⟨_, _, answered⟩
      · exact ih post old
      · rw [answered, steady]

end Pool

end ReservationLoad

import ReservationLoad.Proofs.LoadTest.ExactlyOnce
import ReservationLoad.Proofs.Pool.Notices
import ReservationLoad.Proofs.Pool.Seeded

/-!
# Load tests with a seed

What a load test with a seed posts is fixed by the seed and the total: every
request is posted once, with the sample that belongs to it.  Two such tests
agree on their posts however many workers they have, in whatever order these
move and whatever the transports answer.  When the outcome of a post is settled
by what it carries, they agree on their counts and on what they report of
requests, too; nothing is claimed of latencies, which differ from run to run.
-/

namespace ReservationLoad

open Chance Work

/-- Is what comes of a delivery settled by what is delivered? -/
def Transport.IsSteady (transport : Transport) (outcome : Reservation → Outcome) : Prop :=
  ∀ before reservation, (transport.post before reservation).outcome = outcome reservation

/-- What a post carries. -/
def Post.content (post : Post) : UInt64 × Reservation := (post.request, post.reservation)

namespace LoadTest

variable {σ τ : Type} [WordSource σ] [WordSource τ]

/-- A load test that has come to its end, under some schedule. -/
structure Completed (config : Config) (transport : Transport) (streams : Nat → σ)
    (p : Pool σ) : Prop where
  reached : Pool.Reaches (settings config) transport (initial config streams) p
  ended : p.hasEnded = true

/-- A number with the sample that a seed determines for the request. -/
def sampleAt (seed : UInt64) (n : Nat) : Nat × Except DrawFault Reservation :=
  (n, Tables.standard.sample seed (UInt64.ofNat n))

/-- What a load test with a seed has posted at its end. -/
structure Reproduced (config : Config) (seed : UInt64) (streams : Nat → σ) (p : Pool σ) :
    Prop where
  /-- Every request was posted once, with the sample that belongs to it, -/
  posted : (p.shared.posts.map fun post => (post.request.toNat, Except.ok post.reservation)).Perm
    ((List.range' 1 config.load.totalRequests.toNat).map (sampleAt seed))
  /-- by a single worker in ascending order. -/
  inOrder : config.load.workers = 1 →
    (p.shared.posts.map fun post => (post.request.toNat, Except.ok post.reservation)).reverse =
      (List.range' 1 config.load.totalRequests.toNat).map (sampleAt seed)
  /-- No worker has drawn from its own stream. -/
  streams : ∀ id me, p.workers[id]? = some me → me.stream = streams id

/-- Two load tests that come to the same as far as their requests go. -/
structure Agree (first second : Config) (p : Pool σ) (q : Pool τ) : Prop where
  /-- A report is made on both unless its percentiles cannot be placed, -/
  reported : ∀ arithmetic elapsed elapsed',
    ((∃ r, report arithmetic first elapsed p = .ok r) ↔
      arithmetic.Places first.load.totalRequests.toNat) ∧
    ((∃ r, report arithmetic second elapsed' q = .ok r) ↔
      arithmetic.Places first.load.totalRequests.toNat)
  /-- and all reports have the same counts. -/
  counts : ∀ arithmetic arithmetic' elapsed elapsed' r r',
    report arithmetic first elapsed p = .ok r → report arithmetic' second elapsed' q = .ok r' →
    r.success = r'.success ∧ r.errors = r'.errors ∧
      r.latency.map LatencySummary.count = r'.latency.map LatencySummary.count
  /-- With the same interval the same events about requests are reported. -/
  events : first.load.logEvery = second.load.logEvery → ∀ elapsed elapsed',
    ((Log.aboutRequests (eventLog first elapsed p)).map Log.Event.outline).Perm
      ((Log.aboutRequests (eventLog second elapsed' q)).map Log.Event.outline)

variable {config : Config} {seed : UInt64} {streams : Nat → σ} {transport : Transport}
  {history : History} {p : Pool σ}

/-! ## One load test -/

theorem posts_sampled (seeded : config.scenario.seed = some seed)
    (run : Pool.Run (settings config) (initial config streams) history p) :
    ∀ post ∈ p.shared.posts,
      Tables.standard.sample seed post.request = .ok post.reservation := by
  apply run.sampled seeded
  · intro w member request reservation posting
    rcases Pool.fresh_of_mem_start _ _ _ _ _ member with ⟨id, rfl⟩
    cases posting
  · intro post member
    cases member

theorem map_posts_eq (seeded : config.scenario.seed = some seed)
    (run : Pool.Run (settings config) (initial config streams) history p) :
    (p.shared.posts.map fun post => (post.request.toNat, Except.ok post.reservation)) =
      (p.shared.posts.map fun post => post.request.toNat).map (sampleAt seed) := by
  rw [List.map_map]
  apply List.map_congr_left
  intro post member
  simp [sampleAt, posts_sampled seeded run post member]

/-- A single worker posts the requests in ascending order. -/
theorem reverse_requests_eq
    (run : Pool.Run (settings config) (initial config streams) history p)
    (ended : p.hasEnded = true) (alone : config.load.workers = 1) :
    (p.shared.posts.map fun post => post.request.toNat).reverse =
      List.range' 1 config.load.totalRequests.toNat := by
  have positive : 0 < config.load.workers := by
    rw [alone]
    decide
  have own : p.shared.posts.filter (fun post => post.worker = 0) = p.shared.posts := by
    rw [List.filter_eq_self]
    intro post member
    have number := (run.worker_lt post member).resolve_left List.not_mem_nil
    rw [initial, Pool.length_workers_start, alone] at number
    exact decide_eq_true (Nat.lt_one_iff.mp number)
  have inside : 0 < config.load.workers.toNat := UInt64.lt_iff_toNat_lt.mp positive
  have ascending := posts_ascending run inside
  have numbers : (p.shared.posts.map fun post => post.request.toNat).reverse =
      (p.shared.posts.map Post.request).reverse.map UInt64.toNat := by
    rw [List.map_reverse, List.map_map]
    rfl
  have increasing :
      (p.shared.posts.map fun post => post.request.toNat).reverse.Pairwise (· < ·) := by
    rw [own] at ascending
    rw [numbers, List.pairwise_map]
    exact ascending.imp UInt64.lt_iff_toNat_lt.mp
  have same := (List.reverse_perm _).trans (posts_perm positive run ended)
  refine same.eq_of_pairwise ?_ increasing List.pairwise_lt_range'
  intro a b _ _ less greater
  omega

theorem reproduced (some : 0 < config.load.workers)
    (seeded : config.scenario.seed = .some seed)
    (run : Pool.Run (settings config) (initial config streams) history p)
    (ended : p.hasEnded = true) : Reproduced config seed streams p where
  posted := by
    rw [map_posts_eq seeded run]
    exact (posts_perm some run ended).map _
  inOrder alone := by
    rw [map_posts_eq seeded run, ← List.map_reverse, reverse_requests_eq run ended alone]
  streams id me found := by
    have inside := (List.getElem?_eq_some_iff.mp found).1
    rw [run.length_workers, initial, Pool.length_workers_start] at inside
    exact run.stream_of_seeded seeded (fresh_worker inside) found

/-- What was posted successfully, in terms of what the posts carry. -/
theorem success_eq_countP_content {outcome : Reservation → Outcome}
    (run : Pool.Run (settings config) (initial config streams) history p)
    (ended : p.hasEnded = true)
    (settled : ∀ post ∈ p.shared.posts, post.outcome = outcome post.reservation) :
    p.shared.collector.success =
      (p.shared.posts.map Post.content).countP fun content =>
        outcome content.2 = .answered 200 := by
  rw [success_eq_countP run ended, List.countP_map]
  apply List.countP_congr
  intro post member
  rw [Function.comp_apply, settled post member]
  exact Iff.rfl

theorem outlines_eq_content {outcome : Reservation → Outcome} {posts : List Post}
    (settled : ∀ post ∈ posts, post.outcome = outcome post.reservation) (logEvery : UInt64) :
    outlines logEvery posts =
      ((posts.map Post.content).filterMap fun content =>
        Post.outline? logEvery ⟨0, content.1, content.2, outcome content.2⟩ :
          Multiset Log.Outline) := by
  rw [outlines, List.filterMap_map]
  congr 1
  apply List.filterMap_congr
  intro post member
  have reworked := outline_requestEvent? logEvery post.worker 0 post.request post.reservation
    ⟨post.outcome, .zero⟩
  rw [Function.comp_apply, Post.outline?, reworked, settled post member]
  rfl

theorem aboutRequests_eventLog
    (run : Pool.Run (settings config) (initial config streams) history p)
    (ended : p.hasEnded = true) (elapsed : Calendar.Span) :
    ((Log.aboutRequests (eventLog config elapsed p)).map Log.Event.outline :
        Multiset Log.Outline) =
      outlines config.load.logEvery p.shared.posts := by
  have during : Log.aboutRequests (eventLog config elapsed p) = p.shared.events.reverse := by
    have inner := run.aboutRequests_eventLog
    unfold Log.aboutRequests at inner ⊢
    rw [eventLog, List.filter_cons_of_neg (by simp [Log.Event.request?]), List.filter_append,
      inner, List.filter_cons_of_neg (by simp [Log.Event.request?]), List.filter_nil,
      List.append_nil]
  have told := run.reported ended
  rw [outlines_nil, add_zero] at told
  rw [during, List.map_reverse, Multiset.coe_reverse]
  exact told

/-- The samples behind the latency figures are as many as the requests. -/
theorem map_count_latency_report (some : 0 < config.load.workers)
    (run : Pool.Run (settings config) (initial config streams) history p)
    (ended : p.hasEnded = true) {arithmetic : Arithmetic} {elapsed : Calendar.Span} {r : Report}
    (made : report arithmetic config elapsed p = .ok r) :
    r.latency.map LatencySummary.count =
      if config.load.totalRequests = 0 then none else .some config.load.totalRequests := by
  have absent := latency_report_eq_none_iff some run ended made
  cases summed : r.latency with
  | none => rw [Option.map_none, if_pos (absent.mp summed)]
  | some figures =>
      have present : config.load.totalRequests ≠ 0 := by
        intro zero
        rw [absent.mpr zero] at summed
        cases summed
      rw [Option.map_some, if_neg present, count_latency_report some run ended made summed]

/-! ## Two load tests -/

section Two

variable {first second : Config} {streams' : Nat → τ} {transport' : Transport}
  {history' : History} {q : Pool τ}

omit [WordSource σ] [WordSource τ] in
/-- Posts with the same numbers and samples carry the same. -/
theorem content_perm (reproduced : Reproduced first seed streams p)
    (reproduced' : Reproduced second seed streams' q)
    (total : first.load.totalRequests = second.load.totalRequests) :
    (p.shared.posts.map Post.content).Perm (q.shared.posts.map Post.content) := by
  let labelled : UInt64 × Reservation → Nat × Except DrawFault Reservation :=
    fun content => (content.1.toNat, .ok content.2)
  have injective : labelled.Injective := by
    rintro ⟨request, reservation⟩ ⟨request', reservation'⟩ same
    simp only [labelled, Prod.mk.injEq, Except.ok.injEq, UInt64.toNat_inj] at same
    rw [same.1, same.2]
  have posted := reproduced.posted
  rw [total] at posted
  have both := posted.trans reproduced'.posted.symm
  rw [← List.map_perm_map_iff injective, List.map_map, List.map_map]
  exact both

theorem agree {outcome : Reservation → Outcome} (some : 0 < first.load.workers)
    (some' : 0 < second.load.workers)
    (total : first.load.totalRequests = second.load.totalRequests)
    (run : Pool.Run (settings first) (initial first streams) history p)
    (run' : Pool.Run (settings second) (initial second streams') history' q)
    (ended : p.hasEnded = true) (ended' : q.hasEnded = true)
    (content : (p.shared.posts.map Post.content).Perm (q.shared.posts.map Post.content))
    (settled : ∀ post ∈ p.shared.posts, post.outcome = outcome post.reservation)
    (settled' : ∀ post ∈ q.shared.posts, post.outcome = outcome post.reservation) :
    Agree first second p q := by
  have success : p.shared.collector.success = q.shared.collector.success := by
    rw [success_eq_countP_content run ended settled,
      success_eq_countP_content run' ended' settled', content.countP_eq]
  refine ⟨?reported, ?counts, ?events⟩
  case reported =>
    intro arithmetic elapsed elapsed'
    refine ⟨exists_report_iff some run ended, ?_⟩
    rw [total]
    exact exists_report_iff some' run' ended'
  case counts =>
    intro arithmetic arithmetic' elapsed elapsed' r r' made made'
    have successes : r.success = r'.success := by
      rw [← UInt64.toNat_inj, toNat_success_report some run ended made,
        toNat_success_report some' run' ended' made', success]
    refine ⟨successes, ?_, ?_⟩
    · rw [errors_report some run ended made, errors_report some' run' ended' made', total,
        successes]
    · rw [map_count_latency_report some run ended made,
        map_count_latency_report some' run' ended' made', total]
  case events =>
    intro interval elapsed elapsed'
    rw [← Multiset.coe_eq_coe, aboutRequests_eventLog run ended,
      aboutRequests_eventLog run' ended', outlines_eq_content settled,
      outlines_eq_content settled', interval, Multiset.coe_eq_coe]
    exact content.filterMap _

/-- Two load tests with one seed and one total post the same reservations for
the same requests, with a single worker in the order of the requests, and no
worker draws from its own stream, whatever the numbers of workers, the
schedules and the transports.  If what comes of a post is settled by what it
carries, in the same way for both, they report the same counts and the same
about their requests. -/
theorem seeded_runs_agree (seed : UInt64) (first second : Config) (streams : Nat → σ)
    (streams' : Nat → τ) (transport transport' : Transport) (p : Pool σ) (q : Pool τ)
    (seeded : first.scenario.seed = some seed) (seeded' : second.scenario.seed = some seed)
    (total : first.load.totalRequests = second.load.totalRequests)
    (some : 0 < first.load.workers) (some' : 0 < second.load.workers)
    (completed : Completed first transport streams p)
    (completed' : Completed second transport' streams' q) :
    Reproduced first seed streams p ∧ Reproduced second seed streams' q ∧
    (p.shared.posts.map Post.content).Perm (q.shared.posts.map Post.content) ∧
    ∀ outcome, transport.IsSteady outcome → transport'.IsSteady outcome →
      Agree first second p q := by
  rcases Pool.Run.of_reaches completed.reached with ⟨history, run⟩
  rcases Pool.Run.of_reaches completed'.reached with ⟨history', run'⟩
  have reproduced := reproduced some seeded run completed.ended
  have reproduced' := LoadTest.reproduced some' seeded' run' completed'.ended
  have content := content_perm reproduced reproduced' total
  refine ⟨reproduced, reproduced', content, ?_⟩
  intro outcome steady steady'
  have settled := completed.reached.outcomes steady (List.forall_mem_nil _)
  have settled' := completed'.reached.outcomes steady' (List.forall_mem_nil _)
  exact agree some some' total run run' completed.ended completed'.ended content settled settled'

end Two

/-- Three requests for two workers and for one, over a transport that refuses
all reservations of one room type. -/
theorem seeded_runs_agree_two_workers_and_one :
    let first : Config :=
      { load := { workers := 2, totalRequests := 3 }, scenario := { seed := some 7 } }
    let second : Config := { first with load.workers := 1 }
    let outcome : Reservation → Outcome := fun reservation =>
      .answered (if reservation.roomType = "Suite" then 500 else 200)
    let transport : Transport := ⟨"choosy", fun _ reservation => ⟨outcome reservation, .zero⟩⟩
    let streams : Nat → Script := fun _ => .ofList []
    let p := LoadTest.run first transport streams
    let q := LoadTest.run second transport streams
    Completed first transport streams p ∧ Completed second transport streams q ∧
      transport.IsSteady outcome ∧ Reproduced first 7 streams p ∧
      Reproduced second 7 streams q ∧ Agree first second p q := by
  intro first second outcome transport streams p q
  have completed : ∀ config : Config,
      Completed config transport streams (LoadTest.run config transport streams) :=
    fun config =>
      ⟨Pool.run_reaches _ _ _,
        (Pool.supplied_seeded streams _ _ .empty []).run_hasEnded (settings config) transport⟩
  have steady : transport.IsSteady outcome := fun _ _ => rfl
  have agreement := seeded_runs_agree 7 first second streams streams transport transport p q
    rfl rfl rfl (by decide) (by decide) (completed first) (completed second)
  exact ⟨completed first, completed second, steady, agreement.1, agreement.2.1,
    agreement.2.2.2 outcome steady steady⟩

end LoadTest

end ReservationLoad

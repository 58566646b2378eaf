import ReservationLoad.Proofs.Pool.Effect
import ReservationLoad.Proofs.Pool.Notices
import ReservationLoad.Proofs.Pool.Seeded

/-!
# What a log tells of its requests

Which event a request gives is settled by its number and by what came of its
post: an answer on the cadence is told whatever its status, an answer off the
cadence only when its status is unwanted, and a failure or a breakdown always.
A pool on a seeded queue posts every request from one to the total once.  So
each kind of event is told as often as there are such numbers, under every
schedule and whatever the transport answers.
-/

namespace ReservationLoad

open Chance Work

/-- Is an answer to the request with this number told whatever its status?
Without an interval none is. -/
def OnCadence (logEvery : UInt64) (n : Nat) : Prop := 0 < logEvery ∧ logEvery.toNat ∣ n

instance (logEvery : UInt64) (n : Nat) : Decidable (OnCadence logEvery n) :=
  inferInstanceAs (Decidable (_ ∧ _))

theorem onCadence_iff (logEvery request : UInt64) :
    OnCadence logEvery request.toNat ↔
      (logEvery > 0 && request % logEvery == 0) = true := by
  rw [OnCadence, Bool.and_eq_true, decide_eq_true_iff, beq_iff_eq, ← UInt64.toNat_inj,
    UInt64.toNat_mod, Nat.dvd_iff_mod_eq_zero]
  rfl

/-- The multiples of the interval up to a total are as many as it goes into
the total. -/
theorem countP_onCadence {logEvery : UInt64} (some : 0 < logEvery) (total : Nat) :
    (List.range' 1 total).countP (fun n => OnCadence logEvery n) = total / logEvery.toNat := by
  induction total with
  | zero => exact (Nat.zero_div _).symm
  | succ total ih =>
      rw [List.range'_1_concat, List.countP_append, ih, Nat.succ_div, Nat.add_comm 1 total,
        List.countP_singleton]
      simp only [OnCadence, some, true_and, decide_eq_true_eq]

namespace Outcome

def isAnswer : Outcome → Bool
  | answered _ => true
  | _ => false

theorem isSuccess_iff (outcome : Outcome) :
    outcome.isSuccess = true ↔ outcome = .answered 200 := by
  cases outcome <;> simp [isSuccess, successStatus]

/-- Is this an answer with an unwanted status? -/
def isRefusal : Outcome → Bool
  | answered status => status ≠ successStatus
  | _ => false

def isFailure : Outcome → Bool
  | failed _ => true
  | _ => false

def isCrash : Outcome → Bool
  | crashed _ => true
  | _ => false

end Outcome

namespace Log

/-- Does a message begin with these words? -/
def opens (opening message : String) : Bool := opening.toList.isPrefixOf message.toList

theorem opens_append (opening message : String) : opens opening (opening ++ message) = true := by
  rw [opens, List.isPrefixOf_iff_prefix, String.toList_append]
  exact List.prefix_append _ _

/-- Has an outline this level and a message of this kind? -/
def Outline.isOf (level : Level) (kind : String → Bool) (o : Outline) : Bool :=
  o.level = level && kind o.message

theorem isOf_workerDied (worker : Nat) (message : String) :
    Outline.isOf .error (opens "Transport panicked: ") (Event.workerDied worker message).outline =
      false := by
  have other : opens "Transport panicked: " ("Worker thread panicked: " ++ message) = false := by
    rw [opens, String.toList_append]
    rfl
  exact Bool.and_eq_false_iff.mpr (.inr other)

/-- The number of events in a log that have a level and a message of some
kind. -/
def told (log : List Event) (level : Level) (kind : String → Bool) : Nat :=
  log.countP fun e => e.level = level && kind e.message

/-- The number of the request that an outline is about. -/
def Outline.number? (o : Outline) : Option Nat :=
  match o.fields.lookup "request" with
  | some (.count n) => some n
  | _ => none

theorem Event.number?_outline (e : Event) : e.outline.number? = e.request?.map UInt64.toNat := by
  cases e <;> rfl

end Log

/-! ## Outlines by number and outcome -/

namespace Post

variable {logEvery : UInt64} (post : Post)

theorem outline?_answered {status : UInt16} (answered : post.outcome = .answered status) :
    post.outline? logEvery =
      if OnCadence logEvery post.request.toNat then
        some (Log.Event.completed post.worker post.request status .zero
          post.reservation.guestName).outline
      else if status ≠ Outcome.successStatus then
        some (Log.Event.refused post.worker post.request status).outline
      else none := by
  simp only [outline?, requestEvent?, answered, ← onCadence_iff]
  split
  · rfl
  · split <;> rfl

theorem outline?_failed {causes : List String} (failed : post.outcome = .failed causes) :
    post.outline? logEvery =
      some (Log.Event.failed post.worker post.request causes).outline := by
  simp only [outline?, requestEvent?, failed]
  rfl

theorem outline?_crashed {message : Option String} (crashed : post.outcome = .crashed message) :
    post.outline? logEvery =
      some (Log.Event.crashed post.worker post.request message).outline := by
  simp only [outline?, requestEvent?, crashed]
  rfl

/-- Answers on the cadence are told as completions. -/
theorem any_completed :
    (post.outline? logEvery).any (Log.Outline.isOf .info (· = "request completed")) =
      (decide (OnCadence logEvery post.request.toNat) && post.outcome.isAnswer) := by
  cases outcome : post.outcome with
  | answered status =>
      rw [outline?_answered post outcome]
      by_cases cadence : OnCadence logEvery post.request.toNat
      · rw [if_pos cadence, decide_eq_true cadence]
        rfl
      · rw [if_neg cadence, decide_eq_false cadence]
        split <;> rfl
  | failed causes =>
      rw [outline?_failed post outcome]
      exact (Bool.and_false _).symm
  | crashed message =>
      rw [outline?_crashed post outcome]
      exact (Bool.and_false _).symm

theorem any_refused :
    (post.outline? logEvery).any (Log.Outline.isOf .debug (· = "non-200 response")) =
      (!decide (OnCadence logEvery post.request.toNat) && post.outcome.isRefusal) := by
  cases outcome : post.outcome with
  | answered status =>
      rw [outline?_answered post outcome, Outcome.isRefusal]
      by_cases cadence : OnCadence logEvery post.request.toNat
      · rw [if_pos cadence, decide_eq_true cadence]
        rfl
      · rw [if_neg cadence, decide_eq_false cadence]
        by_cases unwanted : status ≠ Outcome.successStatus
        · rw [if_pos unwanted, decide_eq_true unwanted]
          rfl
        · rw [if_neg unwanted, decide_eq_false unwanted]
          rfl
  | failed causes =>
      rw [outline?_failed post outcome]
      exact (Bool.and_false _).symm
  | crashed message =>
      rw [outline?_crashed post outcome]
      exact (Bool.and_false _).symm

theorem any_failed :
    (post.outline? logEvery).any (Log.Outline.isOf .warn (Log.opens "Request error: ")) =
      post.outcome.isFailure := by
  cases outcome : post.outcome with
  | answered status =>
      rw [outline?_answered post outcome]
      split
      · rfl
      · split <;> rfl
  | failed causes =>
      rw [outline?_failed post outcome]
      exact Log.opens_append _ _
  | crashed message =>
      rw [outline?_crashed post outcome]
      rfl

theorem any_crashed :
    (post.outline? logEvery).any (Log.Outline.isOf .error (Log.opens "Transport panicked: ")) =
      post.outcome.isCrash := by
  cases outcome : post.outcome with
  | answered status =>
      rw [outline?_answered post outcome]
      split
      · rfl
      · split <;> rfl
  | failed causes =>
      rw [outline?_failed post outcome]
      rfl
  | crashed message =>
      rw [outline?_crashed post outcome]
      exact Log.opens_append _ _

/-- What is told of a post is about its request. -/
theorem any_number (n : Nat) :
    (post.outline? logEvery).any (fun o => o.number? = some n) =
      (decide (post.request.toNat = n) && (post.outline? logEvery).isSome) := by
  unfold outline?
  cases made : requestEvent? logEvery post.worker post.request post.reservation
      ⟨post.outcome, .zero⟩ with
  | none => exact (Bool.and_false _).symm
  | some e =>
      simp only [Option.map_some, Option.any_some, Option.isSome_some, Bool.and_true,
        Log.Event.number?_outline, request?_of_requestEvent? made, Option.some.injEq]

/-- Nothing is told just when an answer off the cadence is as wanted. -/
theorem isSome_outline? :
    (post.outline? logEvery).isSome =
      !(!decide (OnCadence logEvery post.request.toNat) && post.outcome.isSuccess) := by
  cases outcome : post.outcome with
  | answered status =>
      rw [outline?_answered post outcome, Outcome.isSuccess]
      by_cases cadence : OnCadence logEvery post.request.toNat
      · rw [if_pos cadence, decide_eq_true cadence]
        rfl
      · rw [if_neg cadence, decide_eq_false cadence]
        by_cases wanted : status = Outcome.successStatus
        · simp [wanted]
        · simp [wanted]
  | failed causes =>
      rw [outline?_failed post outcome, Outcome.isSuccess, Bool.and_false]
      rfl
  | crashed message =>
      rw [outline?_crashed post outcome, Outcome.isSuccess, Bool.and_false]
      rfl

end Post

/-! ## Counting over a pool's log -/

namespace Pool

variable {σ : Type}

/-- What came of the post of the request with the given number. -/
def outcome? (p : Pool σ) (n : Nat) : Option Outcome :=
  (p.shared.posts.find? fun post => post.request.toNat = n).map Post.outcome

/-- The numbers of the requests up to a total for which something holds of
number and outcome. -/
def countNumbers (p : Pool σ) (total : UInt64) (holds : Nat → Outcome → Bool) : Nat :=
  (List.range' 1 total.toNat).countP fun n => (p.outcome? n).any (holds n)

/-- The post of a request is found under its number when no number was posted
twice. -/
theorem outcome?_of_mem {p : Pool σ}
    (distinct : (p.shared.posts.map fun post => post.request.toNat).Nodup) {post : Post}
    (member : post ∈ p.shared.posts) : p.outcome? post.request.toNat = some post.outcome := by
  have found : (p.shared.posts.find? fun other => other.request.toNat = post.request.toNat) =
      some post := by
    cases search : p.shared.posts.find? fun other => other.request.toNat = post.request.toNat with
    | none =>
        have missed := List.find?_eq_none.mp search post member
        simp at missed
    | some other =>
        have same := List.find?_some search
        have inside := List.mem_of_find?_eq_some search
        rw [List.inj_on_of_nodup_map distinct inside member (by simpa using same)]
  rw [outcome?, found, Option.map_some]

/-- Counting posts is counting numbers when the numbers were posted once each. -/
theorem countP_posts {p : Pool σ} {total : UInt64}
    (posted : (p.shared.posts.map fun post => post.request.toNat).Perm
      (List.range' 1 total.toNat)) (holds : Nat → Outcome → Bool) :
    p.shared.posts.countP (fun post => holds post.request.toNat post.outcome) =
      p.countNumbers total holds := by
  have distinct := posted.symm.nodup List.nodup_range'
  rw [countNumbers, ← posted.countP_eq, List.countP_map]
  apply List.countP_congr
  intro post member
  simp only [Function.comp_apply, outcome?_of_mem distinct member, Option.any_some]

theorem exists_post_of_number {p : Pool σ} {total : UInt64}
    (posted : (p.shared.posts.map fun post => post.request.toNat).Perm
      (List.range' 1 total.toNat)) {n : Nat} (member : n ∈ List.range' 1 total.toNat) :
    ∃ post ∈ p.shared.posts, post.request.toNat = n ∧ p.outcome? n = some post.outcome := by
  rcases List.mem_map.mp (posted.mem_iff.mpr member) with ⟨post, inside, rfl⟩
  exact ⟨post, inside, rfl, outcome?_of_mem (posted.symm.nodup List.nodup_range') inside⟩

theorem countNumbers_unpaced {p : Pool σ} {total logEvery : UInt64} (unpaced : logEvery = 0) :
    (p.countNumbers total fun n outcome => OnCadence logEvery n && outcome.isAnswer) = 0 := by
  rw [countNumbers, List.countP_eq_zero]
  intro n _
  have never : ¬ OnCadence logEvery n := by
    rw [unpaced]
    rintro ⟨⟨⟩, _⟩
  simp [never]

theorem countNumbers_paced {p : Pool σ} {total logEvery : UInt64} (paced : 0 < logEvery)
    (answered : ∀ n ∈ List.range' 1 total.toNat, (p.outcome? n).any Outcome.isAnswer) :
    (p.countNumbers total fun n outcome => OnCadence logEvery n && outcome.isAnswer) =
      total.toNat / logEvery.toNat := by
  rw [countNumbers, ← countP_onCadence paced]
  apply List.countP_congr
  intro n member
  have answer := answered n member
  cases came : p.outcome? n with
  | none => simp [came] at answer
  | some outcome =>
      rw [came, Option.any_some] at answer
      simp [answer]

/-- What the log of a pool tells of the requests from one to a total. -/
structure Told (logEvery total : UInt64) (p : Pool σ) : Prop where
  /-- Something came of every request. -/
  settled : ∀ n ∈ List.range' 1 total.toNat, (p.outcome? n).isSome
  /-- Of each request one event tells at most, -/
  once : ∀ id, p.eventLog.countP (fun e => e.request? = some id) ≤ 1
  /-- and none of any other. -/
  known : ∀ e ∈ p.eventLog, ∀ id, e.request? = some id → id.toNat ∈ List.range' 1 total.toNat
  completed : Log.told p.eventLog .info (· = "request completed") =
    p.countNumbers total fun n outcome => OnCadence logEvery n && outcome.isAnswer
  refused : Log.told p.eventLog .debug (· = "non-200 response") =
    p.countNumbers total fun n outcome => !OnCadence logEvery n && outcome.isRefusal
  failed : Log.told p.eventLog .warn (Log.opens "Request error: ") =
    p.countNumbers total fun _ outcome => outcome.isFailure
  crashed : Log.told p.eventLog .error (Log.opens "Transport panicked: ") =
    p.countNumbers total fun _ outcome => outcome.isCrash
  /-- A request gives no event just when it is off the cadence and its answer is as wanted. -/
  silent : ∀ n ∈ List.range' 1 total.toNat,
    (∀ e ∈ p.eventLog, e.request?.map UInt64.toNat ≠ some n) ↔
      ¬ OnCadence logEvery n ∧ p.outcome? n = some (.answered 200)
  /-- Without an interval nothing is told as a completion. -/
  unpaced : logEvery = 0 → Log.told p.eventLog .info (· = "request completed") = 0
  /-- If every request is answered, the completions are as many as the interval goes into the
  total. -/
  paced : 0 < logEvery →
    (∀ n ∈ List.range' 1 total.toNat, (p.outcome? n).any Outcome.isAnswer) →
    Log.told p.eventLog .info (· = "request completed") = total.toNat / logEvery.toNat

section Start

variable [WordSource σ] {settings : PoolSettings} {streams : Nat → σ} {total : UInt64}
  {workers : Nat} {collector : Collector} {history : History} {p : Pool σ}

/-- Counting the events of a log is counting posts by what is told of them. -/
theorem Run.countP_eventLog {queue : Queue}
    (run : Run settings (start streams workers queue collector []) history p)
    (ended : p.hasEnded = true) (P : Log.Outline → Bool)
    (started : ∀ workers, P (Log.Event.poolStarted workers).outline = false)
    (finished : ∀ id count, P (Log.Event.workerFinished id count).outline = false)
    (died : ∀ id message, P (Log.Event.workerDied id message).outline = false) :
    p.eventLog.countP (fun e => P e.outline) =
      p.shared.posts.countP fun post => (post.outline? settings.logEvery).any P := by
  have reported := run.reported ended
  rw [outlines_nil, add_zero] at reported
  have during : p.shared.events.countP (fun e => P e.outline) =
      p.shared.posts.countP fun post => (post.outline? settings.logEvery).any P := by
    calc
      _ = (p.shared.events.map Log.Event.outline).countP P := List.countP_map.symm
      _ = (p.shared.posts.filterMap (Post.outline? settings.logEvery)).countP P :=
        (Multiset.coe_eq_coe.mp reported).countP_eq P
      _ = _ := by
        rw [List.countP_filterMap]
        apply List.countP_congr
        intro post _
        cases post.outline? settings.logEvery <;> exact Iff.rfl
  have joining : (p.joined.map (·.1)).countP (fun e => P e.outline) = 0 := by
    rw [List.countP_eq_zero]
    intro e member
    rcases List.mem_map.mp member with ⟨result, joined, rfl⟩
    rcases List.mem_mapIdx.mp joined with ⟨id, inside, rfl⟩
    unfold joinWorker
    split
    · simp [died]
    · simp [finished]
  rw [eventLog, List.countP_cons_of_neg (by simp [started]), List.countP_append,
    List.countP_reverse, during, joining, Nat.add_zero]

theorem Run.posts_numbered (stocked : settings.generator.tables.Stocked) (some : 0 < workers)
    (run : Run settings (start streams workers (.seeded total workers) collector []) history p)
    (ended : p.hasEnded = true) :
    (p.shared.posts.map fun post => post.request.toNat).Perm (List.range' 1 total.toNat) := by
  have drained := run.drained stocked (by simp [Queue.seeded]) ended
  rcases drained.posted with ⟨new, added, posted⟩
  rw [List.append_nil] at added
  rw [Queue.requestsIn_upToStops_seeded total some] at posted
  have numbered := posted.map UInt64.toNat
  rwa [Queue.map_toNat_requestsIn_requests, List.map_map, ← added] at numbered

/-- Events that a pool tells of requests alone are told as often as the numbers call for. -/
theorem Run.told (stocked : settings.generator.tables.Stocked) (some : 0 < workers)
    (run : Run settings (start streams workers (.seeded total workers) collector []) history p)
    (ended : p.hasEnded = true) {level : Log.Level} {kind : String → Bool}
    {holds : Nat → Outcome → Bool}
    (due : ∀ post, (Post.outline? settings.logEvery post).any (Log.Outline.isOf level kind) =
      holds post.request.toNat post.outcome)
    (started : ∀ count, Log.Outline.isOf level kind (Log.Event.poolStarted count).outline = false)
    (finished : ∀ id count,
      Log.Outline.isOf level kind (Log.Event.workerFinished id count).outline = false)
    (died : ∀ id message,
      Log.Outline.isOf level kind (Log.Event.workerDied id message).outline = false) :
    Log.told p.eventLog level kind = p.countNumbers total holds := by
  have count := run.countP_eventLog ended (Log.Outline.isOf level kind) started finished died
  simp only [due, countP_posts (run.posts_numbered stocked some ended)] at count
  exact count

/-- The events about a number are as many as the posts of that number of which something is
told. -/
theorem Run.countP_number {queue : Queue}
    (run : Run settings (start streams workers queue collector []) history p)
    (ended : p.hasEnded = true) (n : Nat) :
    p.eventLog.countP (fun e => e.request?.map UInt64.toNat = some n) =
      p.shared.posts.countP fun post =>
        decide (post.request.toNat = n) && (post.outline? settings.logEvery).isSome := by
  simp only [← Log.Event.number?_outline, ← Post.any_number]
  exact run.countP_eventLog ended (fun o => o.number? = some n) (fun _ => rfl)
    (fun _ _ => rfl) (fun _ _ => rfl)

section Posted

variable {queue : Queue} (run : Run settings (start streams workers queue collector []) history p)
  (ended : p.hasEnded = true)
  (posted : (p.shared.posts.map fun post => post.request.toNat).Perm (List.range' 1 total.toNat))

include run ended posted in
/-- Of no request two events tell. -/
theorem Run.told_once (id : UInt64) : p.eventLog.countP (fun e => e.request? = some id) ≤ 1 := by
  calc
    p.eventLog.countP (fun e => e.request? = some id)
    _ ≤ p.eventLog.countP (fun e => e.request?.map UInt64.toNat = some id.toNat) := by
      apply List.countP_mono_left
      intro e _ about
      rw [of_decide_eq_true about]
      exact decide_eq_true rfl
    _ = p.shared.posts.countP (fun post =>
          decide (post.request.toNat = id.toNat) &&
            (post.outline? settings.logEvery).isSome) := run.countP_number ended _
    _ ≤ p.shared.posts.countP (fun post => post.request.toNat == id.toNat) := by
      apply List.countP_mono_left
      intro post _ both
      exact (Bool.and_eq_true_iff.mp both).1
    _ = (p.shared.posts.map fun post => post.request.toNat).count id.toNat := by
      rw [List.count, List.countP_map]
      rfl
    _ ≤ 1 := List.nodup_iff_count_le_one.mp (posted.symm.nodup List.nodup_range') _

include run ended posted in
theorem Run.told_known {e : Log.Event} (member : e ∈ p.eventLog) {id : UInt64}
    (about : e.request? = some id) : id.toNat ∈ List.range' 1 total.toNat := by
  have positive : 0 < p.eventLog.countP
      (fun e => e.request?.map UInt64.toNat = some id.toNat) :=
    List.countP_pos_iff.mpr ⟨e, member, by rw [about]; exact decide_eq_true rfl⟩
  rw [run.countP_number ended] at positive
  rcases List.countP_pos_iff.mp positive with ⟨post, inside, both⟩
  have same := of_decide_eq_true (Bool.and_eq_true_iff.mp both).1
  rw [← posted.mem_iff, ← same]
  exact List.mem_map_of_mem inside

include run ended posted in
/-- The log says nothing of a request just when nothing is told of its post. -/
theorem Run.untold_iff {post : Post} (inside : post ∈ p.shared.posts) :
    (∀ e ∈ p.eventLog, e.request?.map UInt64.toNat ≠ some post.request.toNat) ↔
      (post.outline? settings.logEvery).isSome = false := by
  have nothing : (∀ e ∈ p.eventLog, e.request?.map UInt64.toNat ≠ some post.request.toNat) ↔
      p.eventLog.countP (fun e => e.request?.map UInt64.toNat = some post.request.toNat) = 0 := by
    simp only [List.countP_eq_zero, decide_eq_true_eq]
  rw [nothing, run.countP_number ended, List.countP_eq_zero]
  constructor
  · intro all
    simpa using all post inside
  · intro silent other member both
    rcases Bool.and_eq_true_iff.mp both with ⟨same, about⟩
    have distinct := posted.symm.nodup List.nodup_range'
    rw [List.inj_on_of_nodup_map distinct member inside (of_decide_eq_true same), silent] at about
    cases about

end Posted

/-- A pool on a seeded queue tells of every request what its number and its outcome call for,
and nothing else, under every schedule and whatever the transport answers. -/
theorem seeded_pool_told (settings : PoolSettings)
    (stocked : settings.generator.tables.Stocked) (streams : Nat → σ) (total : UInt64)
    (workers : Nat) (some : 0 < workers) (collector : Collector) (history : History) (p : Pool σ)
    (run : Run settings (start streams workers (.seeded total workers) collector []) history p)
    (ended : p.hasEnded = true) : Told settings.logEvery total p := by
  have posted := run.posts_numbered stocked some ended
  have completed : Log.told p.eventLog .info (· = "request completed") =
      p.countNumbers total fun n outcome => OnCadence settings.logEvery n && outcome.isAnswer :=
    run.told stocked some ended (fun post => post.any_completed) (fun _ => rfl)
      (fun _ _ => rfl) (fun _ _ => rfl)
  constructor
  case completed => exact completed
  case refused =>
    exact run.told stocked some ended (fun post => post.any_refused) (fun _ => rfl)
      (fun _ _ => rfl) (fun _ _ => rfl)
  case failed =>
    exact run.told stocked some ended (fun post => post.any_failed) (fun _ => rfl)
      (fun _ _ => rfl) (fun _ _ => rfl)
  case crashed =>
    exact run.told stocked some ended (fun post => post.any_crashed) (fun _ => rfl)
      (fun _ _ => rfl) Log.isOf_workerDied
  case settled =>
    intro n member
    rcases exists_post_of_number posted member with ⟨post, -, -, came⟩
    rw [came]
    rfl
  case once => exact run.told_once ended posted
  case known => exact fun e member id about => run.told_known ended posted member about
  case silent =>
    intro n member
    rcases exists_post_of_number posted member with ⟨post, inside, rfl, came⟩
    rw [run.untold_iff ended posted inside, came, Post.isSome_outline?, Bool.not_eq_false',
      Bool.and_eq_true, Bool.not_eq_true', decide_eq_false_iff_not, Outcome.isSuccess_iff,
      Option.some.injEq]
  case unpaced =>
    intro unpaced
    rw [completed, countNumbers_unpaced unpaced]
  case paced =>
    intro paced answered
    rw [completed, countNumbers_paced paced answered]

end Start

/-- Five requests, two workers and an interval of two, over a target that is
out of order: two completions are told, of the second and the fourth request,
and three refusals. -/
theorem seeded_pool_told_of_refusals :
    let settings : PoolSettings := ⟨⟨Tables.standard, none⟩, 2⟩
    let streams : Nat → Script := fun _ => .ofList []
    let first := start streams 2 (.seeded 5 2) .empty []
    let last := first.run settings (.mock 500 0)
    settings.generator.tables.Stocked ∧ (∃ history, Run settings first history last) ∧
      last.hasEnded = true ∧ Told 2 5 last ∧
      Log.told last.eventLog .info (· = "request completed") = 2 ∧
      Log.told last.eventLog .debug (· = "non-200 response") = 3 := by
  intro settings streams first last
  have reached : Reaches settings (.mock 500 0) first last := run_reaches _ _ _
  have ended : last.hasEnded = true :=
    (supplied_seeded streams 5 2 .empty []).run_hasEnded settings (.mock 500 0)
  rcases Run.of_reaches reached with ⟨history, run⟩
  have account := seeded_pool_told settings Tables.standard_stocked streams 5 2
    (by decide) .empty history last run ended
  have steady : ∀ before reservation,
      ((Transport.mock 500 0).post before reservation).outcome = .answered 500 := fun _ _ => rfl
  have posted := reached.outcomes steady (List.forall_mem_nil _)
  clear_value last
  have answered : ∀ n ∈ List.range' 1 5, last.outcome? n = some (.answered 500) := by
    intro n member
    rcases Option.isSome_iff_exists.mp (account.settled n member) with ⟨outcome, came⟩
    rcases Option.map_eq_some_iff.mp came with ⟨post, found, rfl⟩
    rw [came, posted post (List.mem_of_find?_eq_some found)]
  refine ⟨Tables.standard_stocked, ⟨history, run⟩, ended, account, ?completed, ?refused⟩
  case completed =>
    have all : ∀ n ∈ List.range' 1 5, (last.outcome? n).any Outcome.isAnswer := by
      intro n member
      rw [answered n member]
      rfl
    rw [account.paced (by decide) all]
    decide
  case refused =>
    rw [account.refused, countNumbers]
    calc
      _ = (List.range' 1 5).countP fun n => !decide (OnCadence 2 n) := by
        apply List.countP_congr
        intro n member
        rw [answered n member, Option.any_some]
        simp [Outcome.isRefusal, Outcome.successStatus, settings]
      _ = 3 := by decide

end Pool

end ReservationLoad

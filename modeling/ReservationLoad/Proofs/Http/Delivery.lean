import ReservationLoad.Http.Transport
import ReservationLoad.Proofs.LoadTest.Reproducible

/-!
# What a delivered status is the answer to

A delivery sends a chain of requests.  It starts with the post of the body to the
configured place, and each further request goes where the answer to the one before
refers to.  The status of the delivery is the answer to the last request, so it is
the answer to the post itself just when the target does not refer that one to
another place.  A run counts the deliveries that end with the wanted status, whatever
the post itself was answered with.
-/

namespace ReservationLoad.Http

variable {target : Target} {request next : Request} {delivery : Delivery} {status : UInt16}
  {referrals : Nat}

/-- The status with which a target answers a request, if it does. -/
def Target.status? (target : Target) (request : Request) : Option UInt16 :=
  match target request with
  | .response response => some response.status
  | _ => none

/-- The request to which a target refers another one. -/
def Target.refers? (target : Target) (request : Request) : Option Request :=
  match target request with
  | .response response => request.next? response
  | _ => none

/-! ## One request -/

/-- What a single request to a target leads to. -/
def Target.turn (target : Target) (request : Request) : Turn :=
  if isSendable request.url then request.turn (target request) else .over (.unsent .badUrl)

theorem send_of_over (ended : target.turn request = .over delivery) :
    send target referrals request = delivery := by
  have asked : turnBy (ask target) request = (pure (.over delivery) : Id Turn) := by
    rw [← ended, Target.turn, turnBy]
    split <;> rfl
  cases referrals <;> rw [send, sendBy, asked] <;> rfl

theorem turnBy_of_next (further : target.turn request = .next next) :
    turnBy (ask target) request = (pure (.next next) : Id Turn) := by
  rw [← further, Target.turn, turnBy]
  split <;> rfl

theorem send_zero_of_next (further : target.turn request = .next next) :
    send target 0 request = ⟨[request], .error .tooManyReferrals⟩ := by
  rw [send, sendBy, turnBy_of_next further]
  rfl

theorem send_succ_of_next (further : target.turn request = .next next) :
    send target (referrals + 1) request =
      ⟨request :: (send target referrals next).sent, (send target referrals next).result⟩ := by
  rw [send, sendBy, turnBy_of_next further]
  rfl

theorem refers?_of_next (further : target.turn request = .next next) :
    target.refers? request = some next := by
  unfold Target.turn Request.turn at further
  unfold Target.refers?
  split at further
  next =>
    split at further
    next => cases further
    next => cases further
    next => cases further
    next response answered =>
      rw [answered]
      split at further
      next => cases further
      next other refers =>
        cases further
        exact refers
  next => cases further

/-! ## Chains of requests -/

/-- What was sent for a request is a chain that starts with it, and a status is the
answer to the last request of the chain, which is not referred any further. -/
structure Traced (target : Target) (first : Request) (delivery : Delivery) : Prop where
  first : ∀ request ∈ delivery.sent.head?, request = first
  follows : delivery.sent.IsChain fun request next => target.refers? request = some next
  last : ∀ status, delivery.result = .ok status ↔
    ∃ last ∈ delivery.sent.getLast?, target.refers? last = none ∧
      target.status? last = some status

/-- Without a request there is no status. -/
theorem traced_unsent (target : Target) (first : Request) (failure : Failure) :
    Traced target first (.unsent failure) :=
  ⟨by simp [Delivery.unsent], .nil, by simp [Delivery.unsent]⟩

theorem traced_of_over (ended : target.turn request = .over delivery) :
    Traced target request delivery ∧ delivery.sent.length ≤ 1 := by
  unfold Target.turn Request.turn at ended
  split at ended
  next =>
    split at ended
    next =>
      cases ended
      exact ⟨traced_unsent _ _ _, Nat.zero_le 1⟩
    next answered =>
      cases ended
      exact ⟨⟨by simp, .singleton _, by simp [Target.status?, answered]⟩, Nat.le_refl 1⟩
    next answered =>
      cases ended
      exact ⟨⟨by simp, .singleton _, by simp [Target.status?, answered]⟩, Nat.le_refl 1⟩
    next response answered =>
      split at ended
      next ends =>
        cases ended
        refine ⟨⟨by simp, .singleton _, ?_⟩, Nat.le_refl 1⟩
        simp [Target.status?, Target.refers?, answered, ends]
      next => cases ended
  next =>
    cases ended
    exact ⟨traced_unsent _ _ _, Nat.zero_le 1⟩

theorem Traced.cons {first : Request} (traced : Traced target first delivery)
    (refers : target.refers? request = some first) :
    Traced target request ⟨request :: delivery.sent, delivery.result⟩ where
  first := by simp
  follows := by
    cases sent : delivery.sent with
    | nil => exact .singleton _
    | cons head rest =>
        have chain := traced.follows
        have same : head = first := traced.first head (by simp [sent])
        rw [sent] at chain
        rw [same] at chain ⊢
        exact .cons_cons refers chain
  last status := by
    rw [traced.last]
    cases sent : delivery.sent with
    | nil => simp [refers]
    | cons head rest => simp [List.getLast?_cons_cons]

theorem traced_send (target : Target) (referrals : Nat) (request : Request) :
    Traced target request (send target referrals request) ∧
      (send target referrals request).sent.length ≤ referrals + 1 := by
  induction referrals generalizing request with
  | zero =>
      match turn : target.turn request with
      | .over delivery =>
          rw [send_of_over turn]
          exact traced_of_over turn
      | .next next =>
          rw [send_zero_of_next turn]
          refine ⟨⟨by simp, .singleton _, ?_⟩, Nat.le_refl 1⟩
          simp [refers?_of_next turn]
  | succ referrals ih =>
      match turn : target.turn request with
      | .over delivery =>
          rw [send_of_over turn]
          exact (traced_of_over turn).imp_right fun few => Nat.le_trans few (Nat.le_add_left _ _)
      | .next next =>
          obtain ⟨traced, few⟩ := ih next
          rw [send_succ_of_next turn]
          exact ⟨traced.cons (refers?_of_next turn), Nat.succ_le_succ few⟩

/-! ## Deliveries -/

/-- The request that posts a body to a place. -/
def posting (place : Url) (body : String) : Request := ⟨.post, place, some body⟩

theorem traced_deliver (target : Target) {url : String} {place : Url} (timeoutMs : UInt64)
    (body : String) (reads : Url.read url = .ok place) :
    Traced target (posting place body) (deliver target url timeoutMs body) ∧
      (deliver target url timeoutMs body).sent.length ≤ referralLimit + 1 := by
  have unsent : ∀ failure, Traced target (posting place body) (.unsent failure) ∧
      (Delivery.unsent failure).sent.length ≤ referralLimit + 1 :=
    fun failure => ⟨traced_unsent _ _ failure, Nat.zero_le _⟩
  rw [deliver, deliverBy, reads]
  simp only
  split
  next => exact unsent .badUrl
  next =>
    split
    next => exact unsent .timeout
    next => exact traced_send target referralLimit (posting place body)

theorem deliver_of_unread (target : Target) {url : String} {fault : Url.Fault}
    (timeoutMs : UInt64) (body : String) (refused : Url.read url = .error fault) :
    deliver target url timeoutMs body = .unsent .badUrl := by
  rw [deliver, deliverBy, refused]
  rfl

namespace Traced

variable {first : Request} (traced : Traced target first delivery)
  (answered : delivery.result = .ok status)

include traced answered

/-- For a status at least one request was sent. -/
theorem head : ∃ rest, delivery.sent = first :: rest := by
  obtain ⟨last, isLast, -⟩ := (traced.last status).mp answered
  cases sent : delivery.sent with
  | nil =>
      rw [sent] at isLast
      cases isLast
  | cons head rest => exact ⟨rest, by rw [traced.first head (by simp [sent])]⟩

/-- It is the only one unless it is referred to another place. -/
theorem alone_iff : delivery.sent = [first] ↔ target.refers? first = none := by
  obtain ⟨last, isLast, ends, -⟩ := (traced.last status).mp answered
  obtain ⟨rest, sent⟩ := traced.head answered
  have chain := traced.follows
  rw [sent] at isLast chain ⊢
  constructor
  · intro alone
    rw [alone] at isLast
    cases isLast
    exact ends
  · intro unreferred
    cases rest with
    | nil => rfl
    | cons second rest =>
        rw [List.isChain_cons_cons, unreferred] at chain
        cases chain.1

/-- Then the status is the answer to it. -/
theorem status_of_alone (unreferred : target.refers? first = none) :
    target.status? first = some status := by
  obtain ⟨last, isLast, -, same⟩ := (traced.last status).mp answered
  rw [(traced.alone_iff answered).mpr unreferred] at isLast
  cases isLast
  exact same

end Traced

theorem Delivery.outcome_eq_answered {status : UInt16} :
    delivery.outcome = .answered status ↔ delivery.result = .ok status := by
  unfold outcome
  cases delivery.result <;> simp

end ReservationLoad.Http

namespace ReservationLoad

open Http

variable {σ : Type} [Chance.WordSource σ]

/-- A load test over a network counts the posts whose delivery ends with the wanted
status. -/
theorem LoadTest.success_over_http {config : Config} {target : Target} {latency : Nat → Binary64}
    {streams : Nat → σ} {p : Pool σ} (some : 0 < config.load.workers)
    (completed : Completed config (transport target latency config.target) streams p)
    {arithmetic : Arithmetic} {elapsed : Calendar.Span} {r : Report}
    (made : report arithmetic config elapsed p = .ok r) :
    r.success.toNat = p.shared.posts.countP fun post =>
      (deliver target config.target.url config.target.timeoutMs
        (bodyOf post.reservation)).result = .ok 200 := by
  obtain ⟨history, run⟩ := Pool.Run.of_reaches completed.reached
  have steady : (transport target latency config.target).IsSteady fun reservation =>
      (deliver target config.target.url config.target.timeoutMs (bodyOf reservation)).outcome :=
    fun _ _ => rfl
  have settled := completed.reached.outcomes steady (List.forall_mem_nil _)
  rw [toNat_success_report some run completed.ended made, success_eq_countP run completed.ended]
  apply List.countP_congr
  intro post member
  rw [settled post member, decide_eq_true_eq, decide_eq_true_eq, Delivery.outcome_eq_answered]

/-- Whatever a target does, a delivery sends a chain of requests that starts with the
post, and its status is the answer to the last of them.  So it is the answer to the
post, and the post is all that was sent, if and only if the target does not refer the
post to another place.  A load test counts the deliveries that end with 200. -/
theorem delivered_status_answers_the_last_request :
    (∀ (target : Target) (url : String) (place : Url) (timeoutMs : UInt64) (body : String),
      Url.read url = .ok place →
        Traced target (posting place body) (deliver target url timeoutMs body) ∧
        (deliver target url timeoutMs body).sent.length ≤ 11 ∧
        ∀ status, (deliver target url timeoutMs body).result = .ok status →
          ((deliver target url timeoutMs body).sent = [posting place body] ↔
            target.refers? (posting place body) = none) ∧
          (target.refers? (posting place body) = none →
            target.status? (posting place body) = some status)) ∧
    (∀ (target : Target) (url : String) (fault : Url.Fault) (timeoutMs : UInt64) (body : String),
      Url.read url = .error fault → deliver target url timeoutMs body = .unsent .badUrl) ∧
    ∀ (target : Target) (latency : Nat → Binary64) (config : Config) (streams : Nat → σ)
      (p : Pool σ) (arithmetic : Arithmetic) (elapsed : Calendar.Span),
      0 < config.load.workers →
      LoadTest.Completed config (transport target latency config.target) streams p →
        ((∃ r, LoadTest.report arithmetic config elapsed p = .ok r) ↔
          arithmetic.Places config.load.totalRequests.toNat) ∧
        ∀ r, LoadTest.report arithmetic config elapsed p = .ok r →
          r.success.toNat = p.shared.posts.countP fun post =>
            (deliver target config.target.url config.target.timeoutMs
              (bodyOf post.reservation)).result = .ok 200 := by
  refine ⟨fun target url place timeoutMs body reads => ?_, ?_, ?_⟩
  · obtain ⟨traced, few⟩ := traced_deliver target timeoutMs body reads
    exact ⟨traced, few, fun status answered =>
      ⟨traced.alone_iff answered, traced.status_of_alone answered⟩⟩
  · exact fun target url fault timeoutMs body => deliver_of_unread target timeoutMs body
  · intro target latency config streams p arithmetic elapsed some completed
    obtain ⟨history, run⟩ := Pool.Run.of_reaches completed.reached
    exact ⟨LoadTest.exists_report_iff some run completed.ended,
      fun r made => LoadTest.success_over_http some completed made⟩

/-! ## A target that refers every post -/

/-- A target that refers every post to a page. -/
def pageBehind : Target := fun request =>
  .response (if request.method = .post then ⟨302, some "/next"⟩ else ⟨200, none⟩)

/-- The place to which it is posted. -/
def entry : Url :=
  { scheme := "http", host := some (.shortAddress 0x7f000001), port := some 9, path := "/r",
    query := some "x=1" }

/-- The page behind it. -/
def page : Request := ⟨.get, { entry with path := "/next", query := none }, none⟩

theorem read_entry : Url.read "http://127.0.0.1:9/r?x=1" = .ok entry := by
  decide +kernel

theorem resolve_entry : entry.resolve "/next" = .ok page.url := by
  decide +kernel

theorem isSendable_entry : isSendable entry = true := by
  decide +kernel

theorem turn_page : pageBehind.turn page = .over ⟨[page], .ok 200⟩ := by
  have sendable : isSendable page.url = true := by decide +kernel
  rw [Target.turn, if_pos sendable]
  rfl

/-- What every post is answered with refers it to the page. -/
theorem next?_posting (body : String) :
    (posting entry body).next? ⟨302, some "/next"⟩ = some page := by
  have resolved : (posting entry body).url.resolve "/next" = .ok page.url := resolve_entry
  have named : isPlace page.url = true := by decide +kernel
  simp only [Request.next?, Option.bind_eq_bind, Option.bind_some, resolved, named, if_true]
  rfl

theorem turn_posting (body : String) : pageBehind.turn (posting entry body) = .next page := by
  have answered : pageBehind (posting entry body) = .response ⟨302, some "/next"⟩ := rfl
  have sendable : isSendable (posting entry body).url = true := isSendable_entry
  rw [Target.turn, if_pos sendable, answered]
  simp only [Request.turn, next?_posting]

theorem deliver_pageBehind (body : String) :
    deliver pageBehind "http://127.0.0.1:9/r?x=1" 3000 body =
      ⟨[posting entry body, page], .ok 200⟩ := by
  have sent : send pageBehind referralLimit (posting entry body) =
      ⟨[posting entry body, page], .ok 200⟩ := by
    rw [referralLimit, send_succ_of_next (turn_posting body), send_of_over turn_page]
  rw [deliver, deliverBy, read_entry]
  simp only [isSendable_entry]
  exact sent

/-- Two workers with three requests for the target. -/
def referredConfig : Config where
  target := { url := "http://127.0.0.1:9/r?x=1", timeoutMs := 3000 }
  load := { workers := 2, totalRequests := 3 }
  scenario := { seed := some 7 }

/-- The load test on the target, with workers that have no stream of their own. -/
def referredRun : Pool Chance.Script :=
  LoadTest.run referredConfig (transport pageBehind (fun _ => .zero) referredConfig.target)
    fun _ => .ofList []

theorem completed_referredRun : LoadTest.Completed referredConfig
    (transport pageBehind (fun _ => .zero) referredConfig.target)
    (fun _ => Chance.Script.ofList []) referredRun :=
  ⟨Pool.run_reaches _ _ _,
    (Pool.supplied_seeded _ _ _ .empty []).run_hasEnded (LoadTest.settings referredConfig) _⟩

/-- Behind the referral the status is not that of the post, of which the target has
seen more than one request. -/
theorem delivered_status_behind_a_referral :
    Url.read "http://127.0.0.1:9/r?x=1" = .ok entry ∧
    Traced pageBehind (posting entry "") (deliver pageBehind "http://127.0.0.1:9/r?x=1" 3000 "") ∧
    (deliver pageBehind "http://127.0.0.1:9/r?x=1" 3000 "").sent ≠ [posting entry ""] ∧
    deliver pageBehind "" 3000 "" = .unsent .badUrl ∧
    0 < referredConfig.load.workers ∧
    ∃ r, LoadTest.report .checked referredConfig ⟨1, 0⟩ referredRun = .ok r ∧
      r.success.toNat = referredRun.shared.posts.countP fun post =>
        (deliver pageBehind "http://127.0.0.1:9/r?x=1" 3000
          (bodyOf post.reservation)).result = .ok 200 := by
  obtain ⟨delivered, unread, counted⟩ :=
    @delivered_status_answers_the_last_request Chance.Script _
  obtain ⟨traced, -, answered⟩ := delivered pageBehind _ entry 3000 "" read_entry
  have result := congrArg Delivery.result (deliver_pageBehind "")
  have refers : pageBehind.refers? (posting entry "") ≠ none := by decide +kernel
  refine ⟨read_entry, traced, fun alone => refers ((answered 200 result).1.mp alone), ?_,
    by decide, ?_⟩
  · exact unread pageBehind "" .noScheme 3000 "" (by decide +kernel)
  · obtain ⟨reported, counts⟩ := counted pageBehind _ referredConfig _ referredRun .checked
      ⟨1, 0⟩ (by decide) completed_referredRun
    obtain ⟨r, made⟩ := reported.mpr (.inr (by decide))
    exact ⟨r, made, counts r made⟩

/-- A target answers every post with 302, and yet every delivery is a success, for
which a second request was sent, and a load test reports no errors. -/
theorem referred_posts_are_successes :
    (∀ body, pageBehind.status? (posting entry body) = some 302 ∧
      (deliver pageBehind "http://127.0.0.1:9/r?x=1" 3000 body).sent =
        [posting entry body, page] ∧
      (deliver pageBehind "http://127.0.0.1:9/r?x=1" 3000 body).outcome.isSuccess = true) ∧
    referredRun.shared.posts.length = 3 ∧
      ∃ r, LoadTest.report .checked referredConfig ⟨1, 0⟩ referredRun = .ok r ∧
        r.success = 3 := by
  obtain ⟨history, run⟩ := Pool.Run.of_reaches completed_referredRun.reached
  have length : referredRun.shared.posts.length = 3 := by
    have posted := LoadTest.posts_perm (by decide) run completed_referredRun.ended
    simpa [referredConfig] using posted.length_eq
  obtain ⟨r, made⟩ : ∃ r, LoadTest.report .checked referredConfig ⟨1, 0⟩ referredRun = .ok r :=
    (LoadTest.exists_report_iff (by decide) run completed_referredRun.ended).mpr
      (.inr (by decide))
  refine ⟨fun body => ⟨rfl, ?_, ?_⟩, length, r, made, UInt64.toNat_inj.mp ?_⟩
  · rw [deliver_pageBehind]
  · rw [deliver_pageBehind]
    rfl
  · have all : ∀ post ∈ referredRun.shared.posts,
        decide ((deliver pageBehind referredConfig.target.url referredConfig.target.timeoutMs
          (bodyOf post.reservation)).result = .ok 200) = true := by
      intro post _
      exact decide_eq_true (congrArg Delivery.result (deliver_pageBehind _))
    rw [LoadTest.success_over_http (by decide) completed_referredRun made,
      List.countP_eq_length.mpr all, length]
    rfl

end ReservationLoad

import ReservationLoad.Http.Message
import ReservationLoad.Http.Place
import ReservationLoad.Url.Reference

/-!
# Exchanges

A delivery may take several requests: when the target answers that the
resource is elsewhere and says where, the next request goes there.  Three of
these statuses turn the request into one that only asks, the other two repeat
it as it was.  The status of a delivery is that of the last response.

How a single request is answered is left open: the same exchange is carried
out over a target that is a function and over a network.
-/

namespace ReservationLoad.Http

/-- The greatest number of referrals that are followed. -/
def referralLimit : Nat := 10

/-- The request that goes to the place that a response refers to, if its
status is one that refers. -/
def Request.redirected? (request : Request) (status : UInt16) (url : Url) : Option Request :=
  if status = 301 ∨ status = 302 ∨ status = 303 then some ⟨.get, url, none⟩
  else if status = 307 ∨ status = 308 then some { request with url }
  else none

/-- The request that follows a response, if one does.  A place that cannot be
read or that no request can name does not count. -/
def Request.next? (request : Request) (response : Response) : Option Request := do
  let reference ← response.location
  match request.url.resolve reference with
  | .ok url => if isPlace url then request.redirected? response.status url else none
  | .error _ => none

/-- Can a request be sent to the URL? -/
def isSendable (url : Url) : Bool := url.isHttp && isPlace url

/-- What was sent for a delivery, and what came of it. -/
structure Delivery where
  sent : List Request
  result : Except Failure UInt16

/-- What came of a delivery for which nothing was sent. -/
def Delivery.unsent (failure : Failure) : Delivery := ⟨[], .error failure⟩

/-- What a single request leads to: the end of its delivery or the request
that follows it. -/
inductive Turn
  | over (delivery : Delivery)
  | next (request : Request)

/-- What the answer to a request leads to. -/
def Request.turn (request : Request) : Answer → Turn
  | .unreachable => .over (.unsent .unreachable)
  | .silence => .over ⟨[request], .error .timeout⟩
  | .garbage => .over ⟨[request], .error .badResponse⟩
  | .response response =>
    match request.next? response with
    | none => .over ⟨[request], .ok response.status⟩
    | some next => .next next

/-- Has a single request answered by `ask`. -/
def turnBy {m : Type → Type} [Monad m] (ask : Request → m Answer) (request : Request) :
    m Turn :=
  if isSendable request.url then request.turn <$> ask request
  else pure (.over (.unsent .badUrl))

/-- Sends a request and follows at most `referrals` referrals. -/
def sendBy {m : Type → Type} [Monad m] (ask : Request → m Answer) :
    (referrals : Nat) → Request → m Delivery
  | 0, request => do
    match ← turnBy ask request with
    | .over delivery => pure delivery
    | .next _ => pure ⟨[request], .error .tooManyReferrals⟩
  | referrals + 1, request => do
    match ← turnBy ask request with
    | .over delivery => pure delivery
    | .next next =>
      let later ← sendBy ask referrals next
      pure ⟨request :: later.sent, later.result⟩

/-- Delivers a body to a URL.  Without any time to spare nothing is sent. -/
def deliverBy {m : Type → Type} [Monad m] (ask : Request → m Answer) (url : String)
    (timeoutMs : UInt64) (body : String) : m Delivery :=
  match Url.read url with
  | .error _ => pure (.unsent .badUrl)
  | .ok url =>
    if !isSendable url then pure (.unsent .badUrl)
    else if timeoutMs = 0 then pure (.unsent .timeout)
    else sendBy ask referralLimit ⟨.post, url, some body⟩

/-- Has a single request answered by a target. -/
def ask (target : Target) (request : Request) : Id Answer := pure (target request)

/-- Sends a request to a target and follows at most `referrals` referrals. -/
def send (target : Target) (referrals : Nat) (request : Request) : Delivery :=
  (sendBy (ask target) referrals request).run

/-- Delivers a body to a URL over a target. -/
def deliver (target : Target) (url : String) (timeoutMs : UInt64) (body : String) : Delivery :=
  (deliverBy (ask target) url timeoutMs body).run

end ReservationLoad.Http

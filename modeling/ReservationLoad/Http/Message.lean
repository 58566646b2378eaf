import ReservationLoad.Url.Basic

/-!
# Requests and responses

What goes over the wire, as far as it decides what comes of a delivery.
-/

namespace ReservationLoad.Http

/-- What a request asks for. -/
inductive Method
  | post
  | get
deriving DecidableEq

/-- The word of a method. -/
def Method.word : Method → String
  | post => "POST"
  | get => "GET"

/-- A request. -/
structure Request where
  method : Method
  url : Url
  body : Option String
deriving DecidableEq

/-- A response, with the place that it refers to. -/
structure Response where
  status : UInt16
  location : Option String
deriving DecidableEq

/-- What comes back for a request. -/
inductive Answer
  | response (response : Response)
  /-- No connection could be made. -/
  | unreachable
  /-- Nothing came in time. -/
  | silence
  /-- What came was no response. -/
  | garbage
deriving DecidableEq

/-- What answers requests. -/
abbrev Target := Request → Answer

/-- Why a delivery failed. -/
inductive Failure
  /-- There is no URL that a request could be sent to. -/
  | badUrl
  /-- The target referred to one place after another. -/
  | tooManyReferrals
  | timeout
  | unreachable
  | badResponse
deriving DecidableEq

/-- The text of a failure. -/
def Failure.message : Failure → String
  | badUrl => "builder error"
  | tooManyReferrals => "error following redirect"
  | timeout => "operation timed out"
  | unreachable => "tcp connect error"
  | badResponse => "error sending request"

end ReservationLoad.Http

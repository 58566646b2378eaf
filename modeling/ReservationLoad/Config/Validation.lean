import ReservationLoad.Config.Basic
import ReservationLoad.Config.Fault
import ReservationLoad.Url.Basic

/-!
# Configurations fit for a run

A run needs a worker, a timeout, a log interval and a target that requests
can be sent to.  How a URL is read is left open.
-/

namespace ReservationLoad.Config

/-- Refuses a configuration that no run can be made with.  Of several faults
the first in this order is reported. -/
def validate (readUrl : Url.Parser) (config : Config) : Except Fault Unit :=
  if config.load.workers = 0 then .error .noWorkers
  else if config.target.timeoutMs = 0 then .error .noTimeout
  else if config.load.logEvery = 0 then .error .noLogInterval
  else
    match readUrl config.target.url with
    | .error cause => .error (.badUrl config.target.url cause)
    | .ok url => if url.isHttp then .ok () else .error (.notHttp config.target.url)

end ReservationLoad.Config

import ReservationLoad.Config.Basic
import ReservationLoad.Pool.Run

/-!
# Load tests

A load test fills a queue with the numbered requests and one stop signal for
each worker, lets the pool work it off and summarizes the samples.  Failed
requests show in the report and nowhere else.
-/

namespace ReservationLoad.LoadTest

open Chance

/-- The settings of the pool that a configuration asks for. -/
def settings (config : Config) : PoolSettings where
  generator := ⟨Tables.standard, config.scenario.seed⟩
  logEvery := config.load.logEvery

variable {σ : Type} [WordSource σ]

/-- The pool of a load test before its first step. -/
def initial (config : Config) (streams : Nat → σ) : Pool σ :=
  Pool.start streams config.load.workers.toNat
    (Work.Queue.seeded config.load.totalRequests config.load.workers.toNat) Collector.empty []

/-- The report on a pool that has ended. -/
def report (arithmetic : Arithmetic) (config : Config) (elapsed : Calendar.Span) (p : Pool σ) :
    Except Overflow Report :=
  p.shared.collector.summarize arithmetic elapsed config.load.totalRequests

/-- The events of a load test whose pool has ended. -/
def eventLog (config : Config) (elapsed : Calendar.Span) (p : Pool σ) : List Log.Event :=
  .sending config.load.totalRequests config.target.url config.load.workers ::
    (p.eventLog ++ [.allFinished p.processed elapsed.toSeconds])

/-- Makes a load test: tells its events in front of and behind the work, which is
done over the pool and takes some time, and reports on it. -/
def conduct {m : Type → Type} [Monad m] (arithmetic : Arithmetic) (config : Config)
    (tell : Log.Event → m Unit) (workOff : m (Pool σ × Calendar.Span)) :
    m (Except Overflow Report) := do
  tell (.sending config.load.totalRequests config.target.url config.load.workers)
  let (pool, elapsed) ← workOff
  tell (.allFinished pool.processed elapsed.toSeconds)
  return report arithmetic config elapsed pool

/-- The pool of a load test at its end. -/
def run (config : Config) (transport : Transport) (streams : Nat → σ) : Pool σ :=
  (initial config streams).run (settings config) transport

end ReservationLoad.LoadTest

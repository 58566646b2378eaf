import ReservationLoad.Config.Basic
import ReservationLoad.Json.Value
import ReservationLoad.Mode
import ReservationLoad.Report.Basic

/-!
# Result documents

A result is kept as a document that says when and how a run was made, with
which settings, and what came of it.
-/

namespace ReservationLoad

/-- What is kept of a run. -/
structure RunResult where
  timestamp : String
  mode : Mode
  transport : String
  config : Config
  report : Report
deriving DecidableEq

namespace RunResult

/-- The members of a result document, in order. -/
def members (result : RunResult) : List (String × Json.Value) :=
  [("timestamp", .text result.timestamp), ("mode", .text result.mode.word),
    ("transport", .text result.transport), ("config", Json.ofDocument result.config),
    ("report", Json.ofDocument result.report)]

/-- The text of a result document. -/
def text (result : RunResult) : String := (Json.Value.object result.members).pretty

def bytes (result : RunResult) : List UInt8 := result.text.toUTF8.toList

end RunResult

end ReservationLoad

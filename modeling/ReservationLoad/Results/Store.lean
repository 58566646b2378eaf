import ReservationLoad.Calendar.Instant
import ReservationLoad.Files.Calls
import ReservationLoad.Results.Basic

/-!
# Saving results

Results are saved in a directory of their own, which is made when it is
missing.  The name of a result file tells the second in which it was saved.
-/

namespace ReservationLoad.Results

/-- Why a result could not be saved. -/
inductive Fault
  | noDirectory (directory : String) (cause : Files.Fault)
  | notWritten (cause : Files.Fault)

/-- The causes of a fault, the outermost first. -/
def Fault.chain : Fault → List String
  | noDirectory directory cause => ["Failed to create " ++ directory, cause.message]
  | notWritten cause => [cause.message]

/-- The name of a result file. -/
def fileName (now : Calendar.Instant) : String := "stress_" ++ now.fileStamp ++ ".json"

/-- Saves a result and tells the path of its file, which is named by the clock once the
directory is there. -/
def save {m : Type → Type} [Monad m] (calls : Files.Calls m) (now : m Calendar.Instant)
    (directory : String) (result : RunResult) : m (Except Fault String) := do
  match ← calls.makeDirectories directory with
  | .error cause => return .error (.noDirectory directory cause)
  | .ok () =>
    let path := Files.join directory (fileName (← now))
    match ← calls.write path result.bytes with
    | .error cause => return .error (.notWritten cause)
    | .ok () => return .ok path

end ReservationLoad.Results

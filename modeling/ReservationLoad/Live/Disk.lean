import ReservationLoad.Files.Calls

/-!
# The disk

The calls on files that the system offers.  What it reports about a failure is
put in the words of `Files.Fault`.
-/

namespace ReservationLoad.Live

open Files

/-- The fault with a code and a text of the system.  Some codes come
negated, in the two's complement of 32 bits. -/
def faultWith (code : UInt32) (text : String) : Fault :=
  match (min code (0 - code)).toNat with
  | 2 => .missing
  | 17 => .alreadyThere
  | 20 => .notDirectory
  | 21 => .isDirectory
  | 36 => .nameTooLong
  | 40 => .tooManyLinks
  | code => .system text code

/-- The fault that the system reports. -/
def faultOf : IO.Error → Fault
  | .noFileOrDirectory _ code text => faultWith code text
  | .alreadyExists _ code text => faultWith code text
  | .inappropriateType _ code text => faultWith code text
  | .invalidArgument _ code text => faultWith code text
  | .permissionDenied _ code text => faultWith code text
  | .resourceExhausted _ code text => faultWith code text
  | .resourceBusy code text => faultWith code text
  | .unsupportedOperation code text => faultWith code text
  | .hardwareFault code text => faultWith code text
  | .otherError code text => faultWith code text
  | other => .system (toString other) 5

/-- Performs an action on files. -/
def attempt {α : Type} (action : IO α) : IO (Except Fault α) := do
  match ← action.toBaseIO with
  | .ok result => return .ok result
  | .error failure => return .error (faultOf failure)

/-- The calls of the system. -/
def files : Calls IO where
  read path := attempt do return (← IO.FS.readBinFile path).toList
  makeDirectory path := attempt (IO.FS.createDir path)
  isDirectory path := do
    match ← attempt (IO.FS.realPath path) with
    | .ok place => place.isDir
    | .error _ => return false
  write path bytes := attempt (IO.FS.writeBinFile path ⟨bytes.toArray⟩)

end ReservationLoad.Live

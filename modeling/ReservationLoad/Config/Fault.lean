import ReservationLoad.Files.Disk
import ReservationLoad.Text.Numeral
import ReservationLoad.Text.Quoted
import ReservationLoad.Toml.Fit
import ReservationLoad.Url.Basic

/-!
# Configurations that cannot be used

Why a configuration could not be loaded or is not fit for a run.
-/

namespace ReservationLoad.Config

/-- Why a configuration file could not be read. -/
inductive FileFault
  | unreadable (cause : Files.Fault)
  /-- The bytes are not UTF-8. -/
  | notText
  | malformed
  | misfit (cause : Wire.Mismatch)

/-- The text of a fault.  The one for a document that breaks the rules of its
notation says no more than that. -/
def FileFault.message : FileFault → String
  | unreadable cause => cause.message
  | notText => "stream did not contain valid UTF-8"
  | malformed => "TOML parse error"
  | misfit cause => Toml.mismatchMessage cause

/-- Why settings are refused. -/
inductive Fault
  | badFile (path : String) (cause : FileFault)
  | badVariable (name value : String) (cause : Text.NumeralFault)
  | noWorkers
  | noTimeout
  | noLogInterval
  | badUrl (url : String) (cause : Url.Fault)
  | notHttp (url : String)

/-- The causes of a fault, the outermost first. -/
def Fault.chain : Fault → List String
  | badFile path cause =>
    ["Failed to load config from " ++ Text.quoted path, cause.message]
  | badVariable name value cause =>
    ["Invalid value for " ++ name ++ ": " ++ Text.quoted value, cause.message]
  | noWorkers => ["load.workers must be at least 1"]
  | noTimeout => ["target.timeout_ms must be non-zero"]
  | noLogInterval => ["load.log_every must be non-zero"]
  | badUrl url cause => ["Invalid target URL: " ++ url, cause.message]
  | notHttp url => ["Target URL must be http:// or https:// (got " ++ url ++ ")"]

end ReservationLoad.Config

import ReservationLoad.Config.Basic
import ReservationLoad.Config.Fault

/-!
# Configuration files

A configuration file holds a configuration in TOML.  How the bytes of a file
are come by is left open; a disk is one way.
-/

namespace ReservationLoad.Config

/-- Reads a configuration from the text of a file. -/
def ofText (text : String) : Except FileFault Config :=
  match Toml.readDocument Config text with
  | .ok config => .ok config
  | .error .malformed => .error .malformed
  | .error (.misfit cause) => .error (.misfit cause)

/-- Reads a configuration from the bytes of a file. -/
def ofBytes (bytes : List UInt8) : Except FileFault Config :=
  match String.fromUTF8? ⟨bytes.toArray⟩ with
  | none => .error .notText
  | some text => ofText text

/-- A way to read files. -/
abbrev FileReader := String → Except Files.Fault (List UInt8)

/-- Reads a configuration file. -/
def ofFile (readFile : FileReader) (path : String) : Except FileFault Config :=
  match readFile path with
  | .error cause => .error (.unreadable cause)
  | .ok bytes => ofBytes bytes

end ReservationLoad.Config

import ReservationLoad.Files.Disk

/-!
# Calls on files

What a program does to files is a sequence of calls, each of which succeeds or tells
its fault.  The calls are the same whether they go to a disk or to the system that
the program runs on.
-/

namespace ReservationLoad.Files

/-- The calls that a system offers. -/
structure Calls (m : Type → Type) where
  read : String → m (Except Fault (List UInt8))
  makeDirectory : String → m (Except Fault Unit)
  isDirectory : String → m Bool
  /-- Writes a file, over what it held. -/
  write : String → List UInt8 → m (Except Fault Unit)

/-- The calls on a disk. -/
def Disk.calls (conditions : Conditions) : Calls (StateM Disk) where
  read path := return (← get).read conditions path
  makeDirectory path := modifyGet (·.makeDirectory conditions path)
  isDirectory path := return (← get).isDirectory conditions path
  write path bytes := modifyGet (·.write conditions path bytes)

namespace Calls

/-- The same calls where more can be done. -/
def lift {m n : Type → Type} (calls : Calls m) (up : {α : Type} → m α → n α) : Calls n where
  read path := up (calls.read path)
  makeDirectory path := up (calls.makeDirectory path)
  isDirectory path := up (calls.isDirectory path)
  write path bytes := up (calls.write path bytes)

variable {m : Type → Type} [Monad m] (calls : Calls m)

/-- Makes a directory unless it is there already. -/
def ensureDirectory (path : String) : m (Except Fault Unit) := do
  match ← calls.makeDirectory path with
  | .ok () => return .ok ()
  | .error fault => return if ← calls.isDirectory path then .ok () else .error fault

/-- Makes a directory and at most `depth` missing ones above it. -/
def makeDirectoriesTo : (depth : Nat) → String → m (Except Fault Unit)
  | 0, _ => return .error .noTree
  | depth + 1, path => do
    if path.isEmpty then return .ok ()
    match ← calls.ensureDirectory path with
    | .ok () => return .ok ()
    | .error .missing =>
      match parent? path with
      | none => return .error .noTree
      | some above =>
        match ← makeDirectoriesTo depth above with
        | .ok () => calls.ensureDirectory path
        | .error fault => return .error fault
    | .error fault => return .error fault

/-- Makes a directory and the missing ones above it. -/
def makeDirectories (path : String) : m (Except Fault Unit) :=
  calls.makeDirectoriesTo (path.length + 1) path

end Calls

end ReservationLoad.Files

import ReservationLoad.Files.Path

/-!
# Directories and files

The directories and files that a program can see are the entries of a disk.  An
entry is a directory, a file or a link to where another path leads.  Files have
numbers, so that one file can have several entries.

A path is walked step by step, from the root or from the working directory, and
the first step that cannot be taken decides how the walk fails.  What else a system
refuses, and where the writing of a file breaks off, is left open (`Conditions`).
-/

namespace ReservationLoad.Files

/-- Why a call on files failed. -/
inductive Fault
  | missing
  | alreadyThere
  | notDirectory
  | isDirectory
  | nameTooLong
  | tooManyLinks
  | zeroInName
  /-- There is nothing left that could be made. -/
  | noTree
  /-- Any other fault that a system reports. -/
  | system (text : String) (code : Nat)
deriving DecidableEq

/-- The text of a fault. -/
def Fault.message : Fault → String
  | missing => "No such file or directory (os error 2)"
  | alreadyThere => "File exists (os error 17)"
  | notDirectory => "Not a directory (os error 20)"
  | isDirectory => "Is a directory (os error 21)"
  | nameTooLong => "File name too long (os error 36)"
  | tooManyLinks => "Too many levels of symbolic links (os error 40)"
  | zeroInName => "file name contained an unexpected NUL byte"
  | noTree => "failed to create whole tree"
  | system text code => text ++ " (os error " ++ toString code ++ ")"

/-- A place, by the names that lead to it from the root. -/
abbrev Place := List String

/-- What a place holds. -/
inductive Entry
  | directory
  | file (number : Nat)
  | link (target : String)
deriving DecidableEq

/-- The number of an entry for a file. -/
def Entry.number? : Entry → Option Nat
  | file number => some number
  | _ => none

/-- The entries of a system, the bytes of its files and the working directory. -/
structure Disk where
  workplace : Place
  entries : List (Place × Entry)
  bytes : Nat → List UInt8

/-- What a system refuses to a program beyond what the entries do not allow, by the
places that it is about. -/
structure Conditions where
  searching : Place → Option Fault := fun _ => none
  reading : Place → Option Fault := fun _ => none
  making : Place → Option Fault := fun _ => none
  writing : Place → Option Fault := fun _ => none
  /-- How many of some bytes are written to a file before a fault breaks that off. -/
  breaking : Place → List UInt8 → Option (Nat × Fault) := fun _ _ => none

/-- Nothing is refused. -/
def Conditions.free : Conditions := {}

/-- Goes on if nothing is refused. -/
def unlessRefused : Option Fault → Except Fault Unit
  | none => .ok ()
  | some fault => .error fault

/-- The greatest length of a path in bytes. -/
def pathLimit : Nat := 4095

/-- The greatest length of a name in bytes. -/
def nameLimit : Nat := 255

/-- The greatest number of links on the way to a place. -/
def linkLimit : Nat := 40

/-- Refuses what cannot be a path at all. -/
def checkPath (path : String) : Except Fault Unit :=
  if path.toList.contains (Char.ofNat 0) then .error .zeroInName
  else if path.isEmpty then .error .missing
  else if pathLimit < path.utf8ByteSize then .error .nameTooLong
  else .ok ()

/-- Where a path starts that is met at a place. -/
def start (here : Place) (path : String) : Place := if isAbsolute path then [] else here

/-- Where a name leads in a directory. -/
def follow (here : Place) (name : String) : Place :=
  if name = "." then here else if name = ".." then here.dropLast else here ++ [name]

namespace Disk

/-- What a place holds, if anything; the root is always there. -/
def held? (disk : Disk) (place : Place) : Option Entry :=
  if place = [] then some .directory else disk.entries.lookup place

/-- Where the link at a place leads, if there is one. -/
def link? (disk : Disk) (place : Place) : Option String :=
  match disk.held? place with
  | some (.link target) => some target
  | _ => none

/-- Puts an entry to a place that holds none. -/
def put (disk : Disk) (place : Place) (entry : Entry) : Disk :=
  { disk with entries := (place, entry) :: disk.entries }

/-- Gives other bytes to a file. -/
def fill (disk : Disk) (number : Nat) (bytes : List UInt8) : Disk :=
  { disk with bytes := fun other => if other = number then bytes else disk.bytes other }

/-- A number that no file has. -/
def freshNumber (disk : Disk) : Nat :=
  (disk.entries.filterMap fun entry => entry.2.number?.map (· + 1)).foldr max 0

variable (conditions : Conditions) (disk : Disk)

/-- Refuses to search a place for a name. -/
def checkSearch (here : Place) : Except Fault Unit :=
  match disk.held? here with
  | some .directory => unlessRefused (conditions.searching here)
  | some _ => .error .notDirectory
  | none => .error .missing

/-- One step of a walk, to a place that need not hold anything. -/
def step (here : Place) (name : String) : Except Fault Place := do
  disk.checkSearch conditions here
  if nameLimit < name.utf8ByteSize then throw .nameTooLong
  pure (follow here name)

/-- Walks to the end of some steps, or to the first link.  From there it is up to the
other walk. -/
def walkToLink (onward : Place → List String → Except Fault Place) :
    Place → List String → Except Fault Place
  | here, [] => pure here
  | here, name :: later => do
    let there ← disk.step conditions here name
    match disk.link? there with
    | some target => onward (start here target) (stepsInto target ++ later)
    | none => walkToLink onward there later

/-- Walks to the end of some steps over so many links at most. -/
def walk : (links : Nat) → Place → List String → Except Fault Place
  | 0 => disk.walkToLink conditions fun _ _ => throw .tooManyLinks
  | links + 1 => disk.walkToLink conditions (walk links)

/-- Where steps from the start of a path lead; there may be nothing. -/
def locate (path : String) (names : List String) : Except Fault Place := do
  checkPath path
  disk.walk conditions linkLimit (start disk.workplace path) names

/-- Is there a directory at the end of a path? -/
def isDirectory (path : String) : Bool :=
  match disk.locate conditions path (stepsInto path) with
  | .ok place => disk.held? place = some .directory
  | .error _ => false

/-- The bytes of a file. -/
def read (path : String) : Except Fault (List UInt8) := do
  let place ← disk.locate conditions path (stepsInto path)
  match disk.held? place with
  | some (.file number) => do
    unlessRefused (conditions.reading place)
    pure (disk.bytes number)
  | some _ => do
    unlessRefused (conditions.reading place)
    throw .isDirectory
  | none => throw .missing

/-- The place for a new directory.  A link at the end of the path is not followed. -/
def vacancy (path : String) : Except Fault Place := do
  match (steps path).reverse with
  | [] => do
    checkPath path
    throw .alreadyThere
  | last :: before => do
    let here ← disk.locate conditions path before.reverse
    let place ← disk.step conditions here last
    if (disk.held? place).isSome then throw .alreadyThere
    unlessRefused (conditions.making place)
    pure place

/-- Makes one directory. -/
def makeDirectory (path : String) : Except Fault Unit × Disk :=
  match disk.vacancy conditions path with
  | .ok place => (.ok (), disk.put place .directory)
  | .error fault => (.error fault, disk)

/-- A file that was opened to be written, and the disk with an entry for it. -/
structure Opened where
  place : Place
  number : Nat
  disk : Disk

/-- Opens a file to write it from its start; a missing one is made. -/
def openFile (path : String) : Except Fault Opened := do
  let place ← disk.locate conditions path (steps path)
  if wantsDirectory path then throw .isDirectory
  match disk.held? place with
  | some (.file number) => do
    unlessRefused (conditions.writing place)
    pure ⟨place, number, disk⟩
  | some _ => throw .isDirectory
  | none => do
    unlessRefused (conditions.making place)
    pure ⟨place, disk.freshNumber, disk.put place (.file disk.freshNumber)⟩

/-- How much of some bytes gets into a file, and the fault that breaks it off. -/
def written (place : Place) (bytes : List UInt8) : List UInt8 × Except Fault Unit :=
  match conditions.breaking place bytes with
  | none => (bytes, .ok ())
  | some (count, fault) => (bytes.take count, .error fault)

/-- Writes a file.  What it held is gone as soon as it is open. -/
def write (path : String) (bytes : List UInt8) : Except Fault Unit × Disk :=
  match disk.openFile conditions path with
  | .error fault => (.error fault, disk)
  | .ok opened =>
    let (kept, outcome) := written conditions opened.place bytes
    (outcome, opened.disk.fill opened.number kept)

end Disk

end ReservationLoad.Files

import ReservationLoad.Proofs.Files.Directories
import ReservationLoad.Results.Store

/-!
# What saving a result does

A call that saves a result makes the directory first.  If the file of its second can be
opened there, its path leads to that file from then on, and the text of the result is
left in it, or a beginning of the text where writing breaks off.  No other file is
changed, and if the file cannot be opened there are more directories at the most.
-/

namespace ReservationLoad.Results

open Files Calendar

/-- The path of the file of an instant. -/
def pathAt (directory : String) (now : Instant) : String := join directory (fileName now)

/-- A call that saves a result: what the system refuses to it, the clock and the
result. -/
structure Call where
  conditions : Conditions
  now : Instant
  result : RunResult

/-- What comes of a call on a disk. -/
def Call.run (call : Call) (directory : String) (disk : Disk) : Except Fault String × Disk :=
  (save (Disk.calls call.conditions) (pure call.now) directory call.result).run disk

/-- The disk with the directory for a call, if that can be made. -/
def Call.made? (call : Call) (directory : String) (disk : Disk) : Option Disk :=
  match ((Disk.calls call.conditions).makeDirectories directory).run disk with
  | (.ok (), made) => some made
  | (.error _, _) => none

/-- The file that is opened for a call, if one can be opened. -/
def Call.opened? (call : Call) (directory : String) (disk : Disk) : Option Disk.Opened := do
  let made ← call.made? directory disk
  (made.openFile call.conditions (pathAt directory call.now)).toOption

/-- What a call leaves in the file that it opens. -/
def Call.writing? (call : Call) (directory : String) (disk : Disk) : Option Writing :=
  (call.opened? directory disk).map fun opened =>
    ⟨opened.number, (Disk.written call.conditions opened.place call.result.bytes).1⟩

/-- The directory can be made, and the file in it be opened and written to its end. -/
def Call.CanSave (call : Call) (directory : String) (disk : Disk) : Prop :=
  ∃ opened ∈ call.opened? directory disk,
    (Disk.written call.conditions opened.place call.result.bytes).2 = .ok ()

/-- What a call has done, whatever came of it. -/
structure Call.Effect (call : Call) (directory : String) (disk : Disk)
    (outcome : Except Fault String) (later : Disk) : Prop where
  changes : disk.Changes later (call.writing? directory disk)
  /-- The path leads to the file that was opened, -/
  leads : ∀ left ∈ call.writing? directory disk,
    later.LeadsTo (pathAt directory call.now) left.number
  /-- in which there is a beginning of the text. -/
  beginning : ∀ left ∈ call.writing? directory disk, left.bytes <+: call.result.bytes
  /-- A path that is told is this one, and all of the text is there. -/
  told : ∀ path, outcome = .ok path → path = pathAt directory call.now ∧
    ∃ number, call.writing? directory disk = some ⟨number, call.result.bytes⟩
  succeeds : (∃ path, outcome = .ok path) ↔ call.CanSave directory disk

theorem Call.run_eq (call : Call) (directory : String) (disk : Disk) :
    call.run directory disk =
      match ((Disk.calls call.conditions).makeDirectories directory).run disk with
      | (.error cause, made) => (.error (.noDirectory directory cause), made)
      | (.ok (), made) =>
        match made.write call.conditions (pathAt directory call.now) call.result.bytes with
        | (.error cause, later) => (.error (.notWritten cause), later)
        | (.ok (), later) => (.ok (pathAt directory call.now), later) := by
  rw [run, save, run_bind]
  rcases ((Disk.calls call.conditions).makeDirectories directory).run disk with
    ⟨cause | ⟨⟩, made⟩
  · rfl
  · dsimp only
    rw [pure_bind, run_bind, run_write, pathAt]
    rcases made.write call.conditions (join directory (fileName call.now)) call.result.bytes with
      ⟨cause | ⟨⟩, later⟩ <;> rfl

/-- A call whose file is opened and written to its end. -/
theorem Call.run_of_opened {call : Call} {directory : String} {disk made : Disk}
    {opened : Disk.Opened}
    (ready : ((Disk.calls call.conditions).makeDirectories directory).run disk = (.ok (), made))
    (found : made.openFile call.conditions (pathAt directory call.now) = .ok opened)
    (whole : ∀ bytes, call.conditions.breaking opened.place bytes = none) :
    call.run directory disk =
      (.ok (pathAt directory call.now), opened.disk.fill opened.number call.result.bytes) := by
  rw [call.run_eq, ready]
  unfold Disk.write Disk.written
  simp only [found, whole]

/-- A call without an open file has made directories and failed. -/
theorem Call.effect_of_unopened {call : Call} {directory : String} {disk later : Disk}
    {fault : Fault} (gains : disk.GainsDirectories later)
    (unopened : call.opened? directory disk = none) :
    call.Effect directory disk (.error fault) later := by
  have nothing : call.writing? directory disk = none := by
    rw [writing?, unopened]
    rfl
  refine ⟨?_, ?_, ?_, nofun, ?_⟩
  · rw [nothing]
    exact gains
  · rw [nothing]
    exact nofun
  · rw [nothing]
    exact nofun
  · refine iff_of_false nofun ?_
    rintro ⟨opened, found, -⟩
    rw [unopened] at found
    cases found

theorem Call.effect (call : Call) (directory : String) (disk : Disk) :
    call.Effect directory disk (call.run directory disk).1 (call.run directory disk).2 := by
  have gains := AddsDirectories.makeDirectories call.conditions directory disk
  rw [call.run_eq]
  rcases attempt : ((Disk.calls call.conditions).makeDirectories directory).run disk with
    ⟨cause | ⟨⟩, made⟩
  -- Without the directory nothing is opened.
  · rw [attempt] at gains
    refine effect_of_unopened gains ?_
    rw [opened?, made?, attempt]
    rfl
  rw [attempt] at gains
  dsimp only at gains ⊢
  have path : call.opened? directory disk =
      (made.openFile call.conditions (pathAt directory call.now)).toOption := by
    rw [opened?, made?, attempt]
    rfl
  rcases Disk.write_cases call.conditions made (pathAt directory call.now) call.result.bytes with
    ⟨fault, refused, unchanged⟩ | ⟨opened, found, filled⟩
  · rw [unchanged]
    refine effect_of_unopened gains ?_
    rw [path, refused]
    rfl
  rw [found] at path
  have changes := gains.after (.fill_opened found
    (Disk.written call.conditions opened.place call.result.bytes).1)
  have leads := (Disk.leadsTo_of_openFile found).mono (.fill _ opened.number
    (Disk.written call.conditions opened.place call.result.bytes).1)
  have beginning := Disk.written_prefix call.conditions opened.place call.result.bytes
  have whole : (Disk.written call.conditions opened.place call.result.bytes).2 = .ok () → _ :=
    Disk.written_of_ok
  have canSave : call.CanSave directory disk ↔
      (Disk.written call.conditions opened.place call.result.bytes).2 = .ok () := by
    unfold CanSave
    rw [path]
    exact ⟨fun ⟨_, same, whole⟩ => Option.some.inj same ▸ whole, fun whole => ⟨_, rfl, whole⟩⟩
  have left : call.writing? directory disk = some
      ⟨opened.number, (Disk.written call.conditions opened.place call.result.bytes).1⟩ := by
    rw [writing?, path]
    rfl
  rw [filled]
  generalize Disk.written call.conditions opened.place call.result.bytes = kept at *
  obtain ⟨bytes, outcome⟩ := kept
  constructor
  case changes =>
    rw [left]
    cases outcome <;> exact changes
  case leads =>
    rw [left]
    rintro _ ⟨⟩
    cases outcome <;> exact leads
  case beginning =>
    rw [left]
    rintro _ ⟨⟩
    exact beginning
  case told =>
    intro path same
    cases outcome with
    | error fault => cases same
    | ok =>
        cases same
        cases whole rfl
        exact ⟨rfl, _, left⟩
  case succeeds =>
    rw [canSave]
    cases outcome with
    | error fault => exact iff_of_false nofun nofun
    | ok => exact iff_of_true ⟨_, rfl⟩ rfl

/-- A saved file holds the text of its result. -/
theorem read_of_run {call : Call} {directory path : String} {disk later : Disk}
    (saved : call.run directory disk = (.ok path, later)) :
    later.read .free path = .ok call.result.bytes := by
  have effect := call.effect directory disk
  rw [saved] at effect
  obtain ⟨rfl, number, left⟩ := effect.told path rfl
  rw [(effect.leads _ left).read, effect.changes.bytes, left]
  exact congrArg Except.ok (Disk.bytes_fill disk number call.result.bytes)

end ReservationLoad.Results

import ReservationLoad.Files.Calls
import ReservationLoad.Proofs.Files.Disk

/-!
# What calls change

To make directories changes nothing but that there are more of them, whether or not
it comes to its end: whatever was there is still there, what is new is a directory,
and no file has other bytes.  To write changes the bytes of one file, the one to
which its path leads, which may be new.  A write that breaks off has changed that
file as well; only one that cannot open its file changes nothing.
-/

namespace ReservationLoad.Files

/-- The bytes that were left in a file. -/
structure Writing where
  number : Nat
  bytes : List UInt8

/-- Between two disks, directories were made and some bytes were left in some file, or
no file was written at all. -/
structure Disk.Changes (disk later : Disk) (writing : Option Writing) : Prop where
  kept : disk.Extends later
  /-- What was not there is a directory or the written file, -/
  gained : ∀ place entry, later.held? place = some entry →
    disk.held? place = some entry ∨ entry = .directory ∨
      ∃ left ∈ writing, entry = .file left.number
  /-- which is nowhere else if it is new. -/
  single : ∀ left ∈ writing, ∀ place other, disk.held? place = none →
    later.held? place = some (.file left.number) →
    later.held? other = some (.file left.number) → other = place
  /-- All other files have the bytes they had. -/
  bytes : later.bytes = (writing.elim disk fun left => disk.fill left.number left.bytes).bytes

/-- Between two disks, nothing was done but to make directories. -/
abbrev Disk.GainsDirectories (disk later : Disk) : Prop := disk.Changes later none

namespace Disk

variable {disk between later : Disk} {conditions : Conditions} {writing : Option Writing}
  {path : String}

namespace Changes

theorem refl (disk : Disk) : disk.GainsDirectories disk where
  kept := .refl disk
  gained _ _ there := .inl there
  single := nofun
  bytes := rfl

/-- Directories that were made before do not count. -/
theorem after (first : disk.GainsDirectories between) (second : between.Changes later writing) :
    disk.Changes later writing where
  kept := first.kept.trans second.kept
  gained place entry there := by
    rcases second.gained place entry there with before | new
    · rcases first.gained place entry before with earlier | directory | ⟨left, none, -⟩
      · exact .inl earlier
      · exact .inr (.inl directory)
      · cases none
    · exact .inr new
  single left written place other free there others := by
    refine second.single left written place other ?_ there others
    cases held : between.held? place with
    | none => rfl
    | some entry =>
        cases (second.kept.kept _ _ held).symm.trans there
        rcases first.gained place _ held with before | directory | ⟨_, none, -⟩
        · cases free.symm.trans before
        · cases directory
        · cases none
  bytes := by
    rw [second.bytes]
    have same := first.bytes
    cases writing with
    | none => exact same
    | some left =>
        funext number
        exact congrArg (fun bytes : Nat → List UInt8 =>
          if number = left.number then left.bytes else bytes number) same

theorem put_directory {place : Place} (free : disk.held? place = none) :
    disk.GainsDirectories (disk.put place .directory) where
  kept := .put free nofun
  gained other entry there := by
    rw [held?_put free] at there
    split at there
    next =>
      cases there
      exact .inr (.inl rfl)
    next => exact .inl there
  single := nofun
  bytes := rfl

/-- An opened file and what is left in it. -/
theorem fill_opened {opened : Opened} (done : disk.openFile conditions path = .ok opened)
    (bytes : List UInt8) :
    disk.Changes (opened.disk.fill opened.number bytes) (some ⟨opened.number, bytes⟩) := by
  have kept := (extends_of_openFile done).trans (.fill opened.disk opened.number bytes)
  obtain ⟨-, ⟨there, same⟩ | ⟨free, fresh, made⟩⟩ := openFile_cases done
  · refine ⟨kept, fun _ _ found => .inl ?_, ?_, ?_⟩
    · rw [held?_fill, same] at found
      exact found
    · rintro left ⟨⟩ place other none found
      rw [held?_fill, same, none] at found
      cases found
    · rw [same]
      rfl
  · have entry : ∀ place, (opened.disk.fill opened.number bytes).held? place =
        if place = opened.place then some (.file opened.number) else disk.held? place := by
      intro place
      rw [held?_fill, made, held?_put free]
    refine ⟨kept, fun place content found => ?_, ?_, ?_⟩
    · rw [entry] at found
      split at found
      next =>
        cases found
        exact .inr (.inr ⟨_, rfl, rfl⟩)
      next => exact .inl found
    · have only : ∀ place, (opened.disk.fill opened.number bytes).held? place =
          some (.file opened.number) → place = opened.place := by
        intro place found
        rw [entry] at found
        split at found
        next here => exact here
        next => exact absurd fresh (ne_freshNumber found)
      rintro left ⟨⟩ place other - found found'
      exact (only other found').trans (only place found).symm
    · rw [made]
      rfl

end Changes

/-! ## Writing -/

/-- A write cannot open its file and changes nothing, or it leaves in it as much as
gets there. -/
theorem write_cases (conditions : Conditions) (disk : Disk) (path : String) (bytes : List UInt8) :
    (∃ fault, disk.openFile conditions path = .error fault ∧
      disk.write conditions path bytes = (.error fault, disk)) ∨
    ∃ opened, disk.openFile conditions path = .ok opened ∧
      disk.write conditions path bytes =
        ((written conditions opened.place bytes).2,
          opened.disk.fill opened.number (written conditions opened.place bytes).1) := by
  unfold write
  cases disk.openFile conditions path with
  | error fault => exact .inl ⟨fault, rfl, rfl⟩
  | ok opened => exact .inr ⟨opened, rfl, rfl⟩

/-- What gets into a file is a beginning of the bytes, -/
theorem written_prefix (conditions : Conditions) (place : Place) (bytes : List UInt8) :
    (written conditions place bytes).1 <+: bytes := by
  unfold written
  split
  next => exact List.prefix_rfl
  next => exact List.take_prefix _ _

/-- and all of them where no fault is told. -/
theorem written_of_ok {place : Place} {bytes : List UInt8}
    (whole : (written conditions place bytes).2 = .ok ()) :
    (written conditions place bytes).1 = bytes := by
  unfold written at whole ⊢
  split at whole
  next => rfl
  next => cases whole

end Disk

/-! ## Making directories -/

/-- An action that goes on after another one starts from the disk that the other one
has left. -/
theorem run_bind {σ α β : Type} (first : StateM σ α) (next : α → StateM σ β) (state : σ) :
    (first >>= next).run state = (next (first.run state).1).run (first.run state).2 := rfl

theorem run_write (conditions : Conditions) (path : String) (bytes : List UInt8) (disk : Disk) :
    ((Disk.calls conditions).write path bytes).run disk = disk.write conditions path bytes := rfl

section Lift

variable {m n : Type → Type} [Monad m] [Monad n] (calls : Calls m) {up : {α : Type} → m α → n α}
  (keepsPure : ∀ {α : Type} (result : α), up (pure result : m α) = pure result)
  (keepsBind : ∀ {α β : Type} (first : m α) (next : α → m β),
    up (first >>= next) = up first >>= fun result => up (next result))

include keepsPure keepsBind

namespace Calls

theorem ensureDirectory_lift (path : String) :
    (calls.lift up).ensureDirectory path = up (calls.ensureDirectory path) := by
  simp only [ensureDirectory, keepsBind]
  refine bind_congr fun made => ?_
  cases made with
  | ok => exact (keepsPure _).symm
  | error fault =>
      rw [keepsBind]
      exact bind_congr fun _ => (keepsPure _).symm

theorem makeDirectoriesTo_lift (depth : Nat) (path : String) :
    (calls.lift up).makeDirectoriesTo depth path = up (calls.makeDirectoriesTo depth path) := by
  induction depth generalizing path with
  | zero => exact (keepsPure _).symm
  | succ depth ih =>
      unfold makeDirectoriesTo
      split
      · exact (keepsPure _).symm
      rw [keepsBind, ensureDirectory_lift calls keepsPure keepsBind]
      refine bind_congr fun made => ?_
      split
      · exact (keepsPure _).symm
      · split
        · exact (keepsPure _).symm
        · rw [keepsBind, ih]
          refine bind_congr fun above => ?_
          cases above with
          | ok => rfl
          | error fault => exact (keepsPure _).symm
      · exact (keepsPure _).symm

/-- Directories are made in the same way where more can be done. -/
theorem makeDirectories_lift (path : String) :
    (calls.lift up).makeDirectories path = up (calls.makeDirectories path) :=
  makeDirectoriesTo_lift calls keepsPure keepsBind _ path

end Calls

end Lift

/-- An action on a disk that does nothing but to make directories. -/
def AddsDirectories {α : Type} (action : StateM Disk α) : Prop :=
  ∀ disk : Disk, disk.GainsDirectories (action.run disk).2

namespace AddsDirectories

variable {α β : Type} (conditions : Conditions)

theorem bind {first : StateM Disk α} {next : α → StateM Disk β} (adds : AddsDirectories first)
    (go : ∀ result, AddsDirectories (next result)) : AddsDirectories (first >>= next) :=
  fun disk => (adds disk).after (go _ _)

theorem pure (result : α) : AddsDirectories (pure result : StateM Disk α) :=
  Disk.Changes.refl

theorem makeDirectory (path : String) :
    AddsDirectories ((Disk.calls conditions).makeDirectory path) := by
  intro disk
  change disk.GainsDirectories (disk.makeDirectory conditions path).2
  unfold Disk.makeDirectory
  cases vacant : disk.vacancy conditions path with
  | error fault => exact .refl disk
  | ok place =>
      refine .put_directory ?_
      unfold Disk.vacancy at vacant
      split at vacant
      next =>
        obtain ⟨⟨⟩, -, stuck⟩ := Wire.exists_of_bind_eq_ok vacant
        cases stuck
      next =>
        obtain ⟨here, -, vacant⟩ := Wire.exists_of_bind_eq_ok vacant
        obtain ⟨there, -, vacant⟩ := Wire.exists_of_bind_eq_ok vacant
        split at vacant
        next => cases vacant
        next free =>
          obtain ⟨⟨⟩, -, ⟨⟩⟩ := Wire.exists_of_bind_eq_ok vacant
          exact Option.not_isSome_iff_eq_none.mp free

theorem isDirectory (path : String) :
    AddsDirectories ((Disk.calls conditions).isDirectory path) := Disk.Changes.refl

theorem ensureDirectory (path : String) :
    AddsDirectories ((Disk.calls conditions).ensureDirectory path) := by
  refine (makeDirectory conditions path).bind fun made => ?_
  cases made with
  | ok => exact pure _
  | error fault => exact (isDirectory conditions path).bind fun _ => pure _

theorem makeDirectoriesTo (depth : Nat) (path : String) :
    AddsDirectories ((Disk.calls conditions).makeDirectoriesTo depth path) := by
  induction depth generalizing path with
  | zero => exact pure _
  | succ depth ih =>
      unfold Calls.makeDirectoriesTo
      split
      · exact pure _
      refine (ensureDirectory conditions path).bind fun made => ?_
      split
      · exact pure _
      · split
        · exact pure _
        · refine (ih _).bind fun above => ?_
          cases above with
          | ok => exact ensureDirectory conditions path
          | error fault => exact pure _
      · exact pure _

theorem makeDirectories (path : String) :
    AddsDirectories ((Disk.calls conditions).makeDirectories path) :=
  makeDirectoriesTo conditions _ path

end AddsDirectories

end ReservationLoad.Files

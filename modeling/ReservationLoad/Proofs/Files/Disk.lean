import ReservationLoad.Files.Disk
import ReservationLoad.Proofs.Wire.Records

/-!
# Walks stay the same

Where a path leads is not changed by more directories and files: they stand where
nothing stood, and what a walk has passed is still there (`Disk.Extends`).  So a path
that was opened leads to its file from then on, whatever is made behind that.
-/

namespace ReservationLoad.Files

open Wire

namespace Disk

variable {disk later : Disk} {conditions conditions' : Conditions} {here there place other : Place}
  {name path : String} {entry : Entry} {number : Nat} {bytes : List UInt8}

/-! ## Entries -/

/-- A place that held nothing holds what was put to it, and all others what they
held before. -/
theorem held?_put (free : disk.held? place = none) (entry : Entry) (other : Place) :
    (disk.put place entry).held? other =
      if other = place then some entry else disk.held? other := by
  have noRoot : place ≠ [] := by
    rintro rfl
    cases free
  by_cases same : other = place
  · subst same
    simp [held?, put, noRoot]
  · have apart : (other == place) = false := by simpa using same
    simp [held?, put, same, List.lookup_cons, apart]

@[simp]
theorem held?_fill (disk : Disk) (number : Nat) (bytes : List UInt8) (place : Place) :
    (disk.fill number bytes).held? place = disk.held? place := rfl

@[simp]
theorem bytes_fill (disk : Disk) (number : Nat) (bytes : List UInt8) :
    (disk.fill number bytes).bytes number = bytes := if_pos rfl

theorem le_foldr_max {n : Nat} {numbers : List Nat} (inside : n ∈ numbers) :
    n ≤ numbers.foldr max 0 := by
  induction numbers with
  | nil => cases inside
  | cons first numbers ih =>
      rw [List.foldr_cons]
      rcases List.mem_cons.mp inside with rfl | more
      · exact Nat.le_max_left _ _
      · exact Nat.le_trans (ih more) (Nat.le_max_right _ _)

theorem mem_of_lookup {entries : List (Place × Entry)} (found : entries.lookup place = some entry) :
    (place, entry) ∈ entries := by
  induction entries with
  | nil => cases found
  | cons first entries ih =>
      rw [List.lookup_cons] at found
      split at found
      next same =>
        cases found
        rw [eq_of_beq same]
        exact List.mem_cons_self
      next => exact List.mem_cons_of_mem _ (ih found)

/-- No file has the fresh number. -/
theorem ne_freshNumber (there : disk.held? place = some (.file number)) :
    number ≠ disk.freshNumber := by
  unfold held? at there
  split at there
  next => cases there
  next =>
    have numbered : number + 1 ∈ disk.entries.filterMap fun entry => entry.2.number?.map (· + 1) :=
      List.mem_filterMap.mpr ⟨_, mem_of_lookup there, rfl⟩
    have below := le_foldr_max numbered
    rw [freshNumber]
    omega

/-! ## Steps -/

theorem unlessRefused_eq_ok {refusal : Option Fault} :
    unlessRefused refusal = .ok () ↔ refusal = none := by
  cases refusal <;> simp [unlessRefused]

theorem step_eq_ok : disk.step conditions here name = .ok there ↔
    disk.held? here = some .directory ∧ conditions.searching here = none ∧
      name.utf8ByteSize ≤ nameLimit ∧ follow here name = there := by
  constructor
  · intro stepped
    obtain ⟨⟨⟩, passed, stepped⟩ := exists_of_bind_eq_ok stepped
    unfold checkSearch at passed
    split at passed
    next directory =>
      split at stepped
      next => cases stepped
      next short =>
        cases stepped
        exact ⟨directory, unlessRefused_eq_ok.mp passed, Nat.le_of_not_lt short, rfl⟩
    next => cases passed
    next => cases passed
  · rintro ⟨directory, free, short, rfl⟩
    unfold step checkSearch
    rw [directory, free]
    change (if nameLimit < name.utf8ByteSize then throw .nameTooLong else
      pure (follow here name) : Except Fault Place) = _
    rw [if_neg (Nat.not_lt.mpr short)]
    rfl

/-! ## More entries -/

/-- What was there is still there, and what is new is no link. -/
structure Extends (disk later : Disk) : Prop where
  workplace : later.workplace = disk.workplace
  kept : ∀ place entry, disk.held? place = some entry → later.held? place = some entry
  links : ∀ place, later.link? place = disk.link? place

theorem link?_eq_some {target : String} :
    disk.link? place = some target ↔ disk.held? place = some (.link target) := by
  unfold link?
  split
  next other found => simp [found]
  next none =>
    constructor
    · rintro ⟨⟩
    · intro found
      exact absurd found (none target)

namespace Extends

theorem refl (disk : Disk) : disk.Extends disk := ⟨rfl, fun _ _ => id, fun _ => rfl⟩

theorem trans {between : Disk} (first : disk.Extends between) (second : between.Extends later) :
    disk.Extends later where
  workplace := second.workplace.trans first.workplace
  kept place entry there := second.kept place entry (first.kept place entry there)
  links place := (second.links place).trans (first.links place)

theorem put (free : disk.held? place = none) (noLink : ∀ target, entry ≠ .link target) :
    disk.Extends (disk.put place entry) where
  workplace := rfl
  kept other content there := by
    rw [held?_put free, if_neg]
    · exact there
    · rintro rfl
      rw [free] at there
      cases there
  links other := by
    ext target
    rw [link?_eq_some, link?_eq_some, held?_put free]
    split
    next same =>
      rw [same, free]
      exact iff_of_false (fun found => noLink target (Option.some.inj found)) nofun
    next => exact Iff.rfl

theorem fill (disk : Disk) (number : Nat) (bytes : List UInt8) :
    disk.Extends (disk.fill number bytes) := ⟨rfl, fun _ _ => id, fun _ => rfl⟩

end Extends

/-- Wherever one program may pass, the other may. -/
def Permits (conditions conditions' : Conditions) : Prop :=
  ∀ place, conditions.searching place = none → conditions'.searching place = none

theorem permits_free (conditions : Conditions) : Permits conditions .free := fun _ _ => rfl

section Mono

variable (kept : disk.Extends later) (permits : Permits conditions conditions')

include kept permits

theorem step_mono (stepped : disk.step conditions here name = .ok there) :
    later.step conditions' here name = .ok there := by
  obtain ⟨directory, free, short, led⟩ := step_eq_ok.mp stepped
  exact step_eq_ok.mpr ⟨kept.kept _ _ directory, permits _ free, short, led⟩

theorem walkToLink_mono {onward onward' : Place → List String → Except Fault Place}
    (jump : ∀ here names, onward here names = .ok place → onward' here names = .ok place)
    {names : List String} (walked : disk.walkToLink conditions onward here names = .ok place) :
    later.walkToLink conditions' onward' here names = .ok place := by
  induction names generalizing here with
  | nil => exact walked
  | cons name names ih =>
      obtain ⟨there, stepped, walked⟩ := exists_of_bind_eq_ok walked
      rw [walkToLink, step_mono kept permits stepped, ok_bind, kept.links]
      cases linked : disk.link? there with
      | none =>
          rw [linked] at walked
          exact ih walked
      | some target =>
          rw [linked] at walked
          exact jump _ _ walked

theorem walk_mono {links : Nat} {names : List String}
    (walked : disk.walk conditions links here names = .ok place) :
    later.walk conditions' links here names = .ok place := by
  induction links generalizing here names with
  | zero =>
      refine walkToLink_mono kept permits (fun here names stuck => ?_) walked
      cases stuck
  | succ links ih => exact walkToLink_mono kept permits (fun _ _ => ih) walked

theorem locate_mono {names : List String}
    (located : disk.locate conditions path names = .ok place) :
    later.locate conditions' path names = .ok place := by
  obtain ⟨⟨⟩, checked, walked⟩ := exists_of_bind_eq_ok located
  rw [locate, checked, ok_bind, kept.workplace]
  exact walk_mono kept permits walked

end Mono

/-! ## Paths to files -/

/-- The path leads to the file with a number. -/
def LeadsTo (disk : Disk) (path : String) (number : Nat) : Prop :=
  ∃ place, disk.locate .free path (stepsInto path) = .ok place ∧
    disk.held? place = some (.file number)

theorem LeadsTo.mono (leads : disk.LeadsTo path number) (kept : disk.Extends later) :
    later.LeadsTo path number := by
  obtain ⟨place, located, there⟩ := leads
  exact ⟨place, locate_mono kept (permits_free _) located, kept.kept _ _ there⟩

/-- A path leads to one file at the most. -/
theorem LeadsTo.eq {number' : Nat} (leads : disk.LeadsTo path number)
    (leads' : disk.LeadsTo path number') : number = number' := by
  obtain ⟨place, located, there⟩ := leads
  obtain ⟨place', located', there'⟩ := leads'
  cases located.symm.trans located'
  cases there.symm.trans there'
  rfl

theorem LeadsTo.read (leads : disk.LeadsTo path number) :
    disk.read .free path = .ok (disk.bytes number) := by
  obtain ⟨place, located, there⟩ := leads
  rw [Disk.read, located, ok_bind, there]
  rfl

/-! ## Opened files -/

/-- What it means that a file could be opened: it was there, or it is new. -/
theorem openFile_cases {opened : Opened} (done : disk.openFile conditions path = .ok opened) :
    disk.locate conditions path (stepsInto path) = .ok opened.place ∧
      (disk.held? opened.place = some (.file opened.number) ∧ opened.disk = disk ∨
        disk.held? opened.place = none ∧ opened.number = disk.freshNumber ∧
          opened.disk = disk.put opened.place (.file opened.number)) := by
  obtain ⟨place, located, done⟩ := exists_of_bind_eq_ok done
  cases plain : wantsDirectory path with
  | true =>
      rw [plain] at done
      cases done
  | false =>
      rw [plain] at done
      have names : stepsInto path = steps path := by
        rw [stepsInto, plain]
        exact List.append_nil _
      rw [names]
      simp only [Bool.false_eq_true, if_false] at done
      split at done
      next number there =>
        obtain ⟨⟨⟩, -, done⟩ := exists_of_bind_eq_ok done
        cases done
        exact ⟨located, .inl ⟨there, rfl⟩⟩
      next => cases done
      next free =>
        obtain ⟨⟨⟩, -, done⟩ := exists_of_bind_eq_ok done
        cases done
        exact ⟨located, .inr ⟨free, rfl, rfl⟩⟩

theorem extends_of_openFile {opened : Opened}
    (done : disk.openFile conditions path = .ok opened) : disk.Extends opened.disk := by
  obtain ⟨-, ⟨-, same⟩ | ⟨free, -, made⟩⟩ := openFile_cases done
  · rw [same]
    exact .refl disk
  · rw [made]
    exact .put free nofun

/-- The path of an opened file leads to it. -/
theorem leadsTo_of_openFile {opened : Opened}
    (done : disk.openFile conditions path = .ok opened) :
    opened.disk.LeadsTo path opened.number := by
  have kept := extends_of_openFile done
  obtain ⟨located, ⟨there, same⟩ | ⟨free, -, made⟩⟩ := openFile_cases done
  · exact ⟨_, locate_mono kept (permits_free _) located, kept.kept _ _ there⟩
  · refine ⟨_, locate_mono kept (permits_free _) located, ?_⟩
    rw [made, held?_put free, if_pos rfl]

end Disk

end ReservationLoad.Files

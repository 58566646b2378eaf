import ReservationLoad.Proofs.Files.Directories

/-!
# Where a path leads

Without links the place at the end of a walk is settled by the names of the path
alone; what the places on the way hold only decides whether the walk comes to its
end.  So files with different names in a directory have different places there, and
on a disk where no file has two entries they are different files.
-/

namespace ReservationLoad.Files

variable {disk later : Disk} {conditions : Conditions} {here there place : Place}
  {name directory path : String} {number : Nat}

/-! ## Names -/

theorem splitSlashes_ne_nil (text : List Char) : splitSlashes text ≠ [] := by
  cases text with
  | nil => exact List.cons_ne_nil _ _
  | cons c text =>
      rw [splitSlashes]
      split
      next => exact List.cons_ne_nil _ _
      next => split <;> exact List.cons_ne_nil _ _

theorem splitSlashes_of_plain {text : List Char} (plain : '/' ∉ text) :
    splitSlashes text = [text] := by
  induction text with
  | nil => rfl
  | cons c text ih =>
      rw [List.mem_cons, not_or] at plain
      rw [splitSlashes, if_neg (Ne.symm plain.1), ih plain.2]

/-- A slash separates names. -/
theorem splitSlashes_append (front behind : List Char) :
    splitSlashes (front ++ '/' :: behind) = splitSlashes front ++ splitSlashes behind := by
  induction front with
  | nil => rfl
  | cons c front ih =>
      rw [List.cons_append, splitSlashes, splitSlashes]
      split
      next => rw [ih, List.cons_append]
      next =>
        obtain ⟨first, more, names⟩ := List.exists_cons_of_ne_nil (splitSlashes_ne_nil front)
        rw [ih, names]
        rfl

/-- A name that stands for itself: it is none of the points and has no slash. -/
structure IsPlainName (name : String) : Prop where
  some : name ≠ ""
  noSlash : '/' ∉ name.toList
  noPoint : name ≠ "."
  noPoints : name ≠ ".."

theorem IsPlainName.toList_ne_nil (plain : IsPlainName name) : name.toList ≠ [] := by
  intro none
  apply plain.some
  rw [← String.ofList_toList (s := name), none]

/-- The steps of a text, its slashes left out. -/
def stepsOf (text : List Char) : List String :=
  ((splitSlashes text).filter (· ≠ [])).map String.ofList

theorem stepsOf_append (front behind : List Char) :
    stepsOf (front ++ '/' :: behind) = stepsOf front ++ stepsOf behind := by
  rw [stepsOf, splitSlashes_append, List.filter_append, List.map_append]
  rfl

theorem IsPlainName.stepsOf (plain : IsPlainName name) : stepsOf name.toList = [name] := by
  rw [Files.stepsOf, splitSlashes_of_plain plain.noSlash]
  simp [plain.some]

/-- The last step to a file in a directory is its name. -/
theorem steps_join (plain : IsPlainName name) (directory : String) :
    steps (join directory name) = steps directory ++ [name] := by
  have text : ∀ path : String, steps path = stepsOf path.toList := fun _ => rfl
  rw [text, text]
  unfold join
  split
  next ends =>
    rcases Bool.or_eq_true_iff.mp ends with empty | slash
    · rw [String.isEmpty_iff.mp empty, String.empty_append]
      exact plain.stepsOf
    · obtain ⟨front, last⟩ := List.getLast?_eq_some_iff.mp (of_decide_eq_true slash)
      rw [String.toList_append, last, List.append_assoc, List.singleton_append, stepsOf_append,
        stepsOf_append, plain.stepsOf]
      have nothing : Files.stepsOf [] = [] := rfl
      rw [nothing, List.append_nil]
  next =>
    have slash : "/".toList = ['/'] := rfl
    rw [String.toList_append, String.toList_append, slash, List.append_assoc,
      List.singleton_append, stepsOf_append, plain.stepsOf]

theorem wantsDirectory_join (plain : IsPlainName name) (directory : String) :
    wantsDirectory (join directory name) = false := by
  have last : ∀ front : List Char, (front ++ name.toList).getLast? ≠ some '/' := by
    intro front ends
    rw [List.getLast?_append, List.getLast?_eq_some_getLast plain.toList_ne_nil,
      Option.some_or, Option.some_inj] at ends
    exact plain.noSlash (ends ▸ List.getLast_mem plain.toList_ne_nil)
  unfold wantsDirectory join
  split
  · rw [String.toList_append]
    exact decide_eq_false (last _)
  · rw [String.toList_append]
    exact decide_eq_false (last _)

theorem stepsInto_join (plain : IsPlainName name) (directory : String) :
    stepsInto (join directory name) = steps directory ++ [name] := by
  rw [stepsInto, wantsDirectory_join plain, steps_join plain]
  exact List.append_nil _

theorem start_join (plain : IsPlainName name) (here : Place) (directory : String) :
    start here (join directory name) = start here directory := by
  have absolute : isAbsolute (join directory name) = isAbsolute directory := by
    unfold isAbsolute join
    cases text : directory.toList with
    | nil =>
        have empty : directory = "" := by
          rw [← String.ofList_toList (s := directory), text]
        obtain ⟨first, more, letters⟩ := List.exists_cons_of_ne_nil plain.toList_ne_nil
        have noSlash : first ≠ '/' := by
          rintro rfl
          exact plain.noSlash (letters ▸ List.mem_cons_self)
        simp [empty, letters, noSlash]
    | cons first more => split <;> simp [text]
  rw [start, start, absolute]

theorem join_injective (directory : String) : Function.Injective (join directory) := by
  intro name other same
  unfold join at same
  split at same
  next => exact String.append_right_inj _ |>.mp same
  next => exact String.append_right_inj _ |>.mp same

/-! ## Plain disks -/

namespace Disk

/-- There are no links, and no file has two entries. -/
structure IsPlain (disk : Disk) : Prop where
  noLink : ∀ place, disk.link? place = none
  single : ∀ place other number, disk.held? place = some (.file number) →
    disk.held? other = some (.file number) → other = place

/-- No call makes a link or another entry for a file. -/
theorem IsPlain.of_changes {writing : Option Writing} (plain : disk.IsPlain)
    (changes : disk.Changes later writing) : later.IsPlain where
  noLink place := (changes.kept.links place).trans (plain.noLink place)
  single place other number there there' := by
    -- An entry that is new is that of the written file, which has no other.
    have known : ∀ {p q}, later.held? p = some (.file number) →
        later.held? q = some (.file number) → disk.held? p = none → q = p := by
      intro p q found found' none
      rcases changes.gained p _ found with before | directory | ⟨left, written, same⟩
      · cases none.symm.trans before
      · cases directory
      · cases same
        exact changes.single left written p q none found found'
    cases held : disk.held? place with
    | none => exact known there there' held
    | some entry =>
        cases held' : disk.held? other with
        | none => exact (known there' there held').symm
        | some entry' =>
            cases (changes.kept.kept _ _ held).symm.trans there
            cases (changes.kept.kept _ _ held').symm.trans there'
            exact plain.single place other number held held'

/-- Without links a walk follows its names. -/
theorem eq_foldl_of_walkToLink (plain : disk.IsPlain)
    {onward : Place → List String → Except Fault Place} {names : List String}
    (walked : disk.walkToLink conditions onward here names = .ok place) :
    place = names.foldl follow here := by
  induction names generalizing here with
  | nil =>
      cases walked
      rfl
  | cons name names ih =>
      obtain ⟨there, stepped, walked⟩ := Wire.exists_of_bind_eq_ok walked
      rw [plain.noLink] at walked
      rw [ih walked, List.foldl_cons, (step_eq_ok.mp stepped).2.2.2]

theorem eq_foldl_of_locate (plain : disk.IsPlain) {names : List String}
    (located : disk.locate conditions path names = .ok place) :
    place = names.foldl follow (start disk.workplace path) := by
  obtain ⟨-, -, walked⟩ := Wire.exists_of_bind_eq_ok located
  exact eq_foldl_of_walkToLink plain walked

/-- Different names in a directory are names of different files. -/
theorem IsPlain.eq_of_leadsTo (plain : disk.IsPlain) {other : String} (isName : IsPlainName name)
    (isName' : IsPlainName other) (leads : disk.LeadsTo (join directory name) number)
    (leads' : disk.LeadsTo (join directory other) number) : name = other := by
  have atEnd : ∀ {name}, IsPlainName name → disk.LeadsTo (join directory name) number →
      disk.held? ((steps directory).foldl follow (start disk.workplace directory) ++ [name]) =
        some (.file number) := by
    rintro name isName ⟨place, located, there⟩
    have place_eq := eq_foldl_of_locate plain located
    rw [stepsInto_join isName, start_join isName, List.foldl_append, List.foldl_cons,
      List.foldl_nil, follow, if_neg isName.noPoint, if_neg isName.noPoints] at place_eq
    rw [← place_eq]
    exact there
  have same := plain.single _ _ _ (atEnd isName' leads') (atEnd isName leads)
  exact List.singleton_inj.mp (List.append_cancel_left same)

end Disk

end ReservationLoad.Files

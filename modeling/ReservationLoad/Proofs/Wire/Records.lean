import ReservationLoad.Wire.Mismatch

/-!
# Records from their slots

Members are put into slots as they are met, in whatever order.  A record that
can be completed has what is in its slots, and nothing else.
-/

namespace ReservationLoad.Wire

section Stages

variable {ε α β : Type}

@[simp]
theorem ok_bind (value : α) (next : α → Except ε β) : (Except.ok value >>= next) = next value :=
  rfl

@[simp]
theorem map_ok (next : α → β) (value : α) :
    (Except.ok value : Except ε α).map next = .ok (next value) := rfl

@[simp]
theorem map_error (next : α → β) (fault : ε) :
    (Except.error fault : Except ε α).map next = .error fault := rfl

theorem exists_of_map_eq_ok {first : Except ε α} {next : α → β} {result : β}
    (run : first.map next = .ok result) : ∃ value, first = .ok value ∧ next value = result := by
  cases first with
  | error fault => cases run
  | ok value => exact ⟨value, rfl, Except.ok.inj run⟩

theorem eq_error_of_map {first : Except ε α} {next : α → β} {fault : ε}
    (run : first.map next = .error fault) : first = .error fault := by
  cases first with
  | error cause => exact congrArg Except.error (Except.error.inj run)
  | ok value => cases run

theorem exists_of_bind_eq_ok {first : Except ε α} {next : α → Except ε β} {result : β}
    (run : first >>= next = .ok result) :
    ∃ value, first = .ok value ∧ next value = .ok result := by
  cases first with
  | error fault => cases run
  | ok value => exact ⟨value, rfl, run⟩

/-- An action that goes on after another one starts from the state that the
other one has left, whether or not it fails itself. -/
theorem run_bind {ς : Type} (first : ExceptT ε (StateM ς) α) (next : α → ExceptT ε (StateM ς) β)
    (state : ς) :
    (first >>= next).run state =
      match first.run state with
      | (.ok result, later) => (next result).run later
      | (.error fault, later) => (.error fault, later) := by
  change ExceptT.bindCont next (first.run state).1 (first.run state).2 = _
  rcases first.run state with ⟨fault | result, later⟩ <;> rfl

end Stages

/-- Two entries under one name are one entry when no name comes twice. -/
theorem index_eq_of_nodup_map {α β : Type} {name : α → β} {entries : List α}
    (distinct : (entries.map name).Nodup) {i j : Nat} {entry other : α}
    (found : entries[i]? = some entry) (found' : entries[j]? = some other)
    (same : name entry = name other) : i = j := by
  have inside : i < (entries.map name).length := by
    rw [List.length_map]
    exact (List.getElem?_eq_some_iff.mp found).1
  apply (List.getElem?_inj inside distinct).mp
  rw [List.getElem?_map, List.getElem?_map, found, found']
  exact congrArg some same

theorem placeOf?_of_getElem? {names : List String} (distinct : names.Nodup) {i : Nat}
    {name : String} (found : names[i]? = some name) : placeOf? name names = some i := by
  obtain ⟨inside, here⟩ := List.getElem?_eq_some_iff.mp found
  rw [placeOf?, List.findIdx?_eq_some_iff_getElem]
  refine ⟨inside, beq_iff_eq.mpr here, ?_⟩
  intro j before same
  have found' : names[j]? = some name :=
    List.getElem?_eq_some_iff.mpr ⟨Nat.lt_trans before inside, beq_iff_eq.mp same⟩
  have equal := (List.getElem?_inj inside distinct).mp (found.trans found'.symm)
  exact Nat.ne_of_lt before equal.symm

theorem getElem?_of_placeOf? {name : String} {names : List String} {place : Nat}
    (found : placeOf? name names = some place) : names[place]? = some name := by
  rw [placeOf?, List.findIdx?_eq_some_iff_getElem] at found
  obtain ⟨inside, here, -⟩ := found
  rw [List.getElem?_eq_getElem inside, beq_iff_eq.mp here]

theorem not_mem_of_placeOf? {name : String} {names : List String}
    (unknown : placeOf? name names = none) : name ∉ names := by
  intro inside
  have other := List.findIdx?_eq_none_iff.mp unknown name inside
  rw [beq_self_eq_true] at other
  cases other

/-- The values in slots; what is in no slot is absent. -/
def valuesIn (slots : Slots) : List Datum := slots.map fun slot => slot.getD .absent

@[simp]
theorem length_valuesIn (slots : Slots) : (valuesIn slots).length = slots.length :=
  List.length_map _

theorem valuesIn_set (slots : Slots) (place : Nat) (value : Datum) :
    valuesIn (slots.set place (some value)) = (valuesIn slots).set place value := by
  rw [valuesIn, List.map_set]
  rfl

/-- Completing a record adds nothing to what is in its slots. -/
theorem valuesIn_of_completeRecord {members : Members} {slots : Slots} {values : List Datum}
    (size : slots.length = members.names.length)
    (complete : completeRecord members slots = .ok values) : valuesIn slots = values := by
  fun_induction completeRecord members slots generalizing values with
  | case1 slots =>
      cases complete
      rw [List.length_eq_zero_iff.mp size]
      rfl
  | case2 name need shape rest value later ih =>
      obtain ⟨others, result, rfl⟩ := exists_of_map_eq_ok complete
      rw [← ih (Nat.succ.inj size) result]
      rfl
  | case3 name need shape rest later missing ih =>
      obtain ⟨others, result, rfl⟩ := exists_of_map_eq_ok complete
      rw [← ih (Nat.succ.inj size) result]
      rfl
  | case4 name need shape rest later missing => cases complete
  | case5 name need shape rest missing ih => cases size
  | case6 name need shape rest missing => cases complete

end ReservationLoad.Wire

import ReservationLoad.Proofs.Wire.Slots
import ReservationLoad.Toml.Fit

/-!
# What the members of a record are read from

A table is fitted to a record entry by entry, an array item by item.  Either
way every member of the datum is the fit of what the node has for it, and is
absent where the node has nothing: neither the order of the entries nor the
keys that the record does not know leave a trace.
-/

namespace ReservationLoad.Toml

open Wire

/-- What entries have for a key; of several entries the last counts. -/
def valueOf? (entries : Entries) (key : String) : Option Node := entries.reverse.lookup key

/-- What a node has for a member of a record with these members. -/
def Node.member? (names : List String) (node : Node) (name : String) : Option Node :=
  match node.entries?, node.items? with
  | some entries, _ => valueOf? entries name
  | none, some items => (placeOf? name names).bind fun place => items[place]?
  | none, none => none

/-- Is this the value of a member for which a node has `found`? -/
def MemberFit.Takes (member : MemberFit) (found : Option Node) (value : Datum) : Prop :=
  match found with
  | none => value = .absent
  | some node => member.fit node = .ok value

/-- The values of members, each for what `look` finds under its name. -/
structure Taken (fits : List MemberFit) (look : String → Option Node) (values : List Datum) :
    Prop where
  length_eq : values.length = fits.length
  takes : ∀ {i : Nat} {member : MemberFit} {value : Datum}, fits[i]? = some member →
    values[i]? = some value → member.Takes (look member.name) value

variable {fits : List MemberFit} {look look' : String → Option Node} {values : List Datum}

theorem valueOf?_append_singleton (entries : Entries) (key : String) (node : Node)
    (name : String) :
    valueOf? (entries ++ [(key, node)]) name =
      if name = key then some node else valueOf? entries name := by
  rw [valueOf?, List.reverse_append, List.reverse_singleton, List.singleton_append,
    List.lookup_cons]
  by_cases same : name = key
  · rw [if_pos same, beq_iff_eq.mpr same]
  · rw [if_neg same, beq_eq_false_iff_ne.mpr same]
    rfl

/-! ## Tables -/

namespace Taken

theorem congr (taken : Taken fits look values)
    (same : ∀ member ∈ fits, look' member.name = look member.name) :
    Taken fits look' values where
  length_eq := taken.length_eq
  takes {i member value} found held := by
    rw [same member (List.mem_of_getElem? found)]
    exact taken.takes found held

/-- Another value for one member leaves the others alone, as no two members
have the same name. -/
theorem set (distinct : (fits.map MemberFit.name).Nodup) (taken : Taken fits look values)
    {place : Nat} {member : MemberFit} {node : Node} {value : Datum}
    (found : fits[place]? = some member) (fitted : member.fit node = .ok value) :
    Taken fits (fun name => if name = member.name then some node else look name)
      (values.set place value) where
  length_eq := by rw [List.length_set, taken.length_eq]
  takes {i other held} found' held' := by
    rw [List.getElem?_set] at held'
    by_cases here : place = i
    · subst here
      cases found.symm.trans found'
      rw [if_pos rfl] at held'
      rw [if_pos rfl]
      split at held'
      · cases held'
        exact fitted
      · cases held'
    · have apart : other.name ≠ member.name := by
        intro same
        exact here (index_eq_of_nodup_map distinct found found' same.symm)
      rw [if_neg here] at held'
      rw [if_neg apart]
      exact taken.takes found' held'

end Taken

theorem taken_of_fitEntries (distinct : (fits.map MemberFit.name).Nodup) {done more : Entries}
    {slots slots' : Slots} (taken : Taken fits (valueOf? done) (valuesIn slots))
    (fitted : fitEntries fits slots more = .ok slots') :
    Taken fits (valueOf? (done ++ more)) (valuesIn slots') := by
  -- The slots agree with the entries done so far; each entry moves one to these.
  induction more generalizing slots done with
  | nil =>
      cases fitted
      rw [List.append_nil]
      exact taken
  | cons entry more ih =>
      obtain ⟨key, node⟩ := entry
      rw [List.append_cons]
      cases known : fits.findIdx? (·.name == key) with
      | none =>
          simp only [fitEntries, known] at fitted
          refine ih (taken.congr ?_) fitted
          intro member inside
          have other := List.findIdx?_eq_none_iff.mp known member inside
          rw [valueOf?_append_singleton, if_neg (ne_of_beq_false other)]
      | some place =>
          obtain ⟨inside, named, -⟩ := List.findIdx?_eq_some_iff_getElem.mp known
          have found := List.getElem?_eq_getElem inside
          have key_eq := beq_iff_eq.mp named
          simp only [fitEntries, known, found] at fitted
          cases result : fits[place].fit node with
          | error mismatch =>
              rw [result] at fitted
              cases fitted
          | ok value =>
              rw [result] at fitted
              refine ih ?_ fitted
              rw [valuesIn_set]
              refine (taken.set distinct found result).congr ?_
              intro member _
              rw [valueOf?_append_singleton, key_eq]

/-- Entries that fill the slots are accepted. -/
theorem fitEntries_eq (distinct : (fits.map MemberFit.name).Nodup) {entries : Entries}
    {slots target : Slots}
    (fills : Fills MemberFit.name MemberFit.fit fits entries slots target) :
    fitEntries fits slots entries = .ok target := by
  induction entries generalizing slots with
  | nil => rw [fitEntries, fills.eq_target]
  | cons entry entries ih =>
      obtain ⟨key, node⟩ := entry
      rw [fitEntries]
      cases known : fits.findIdx? (·.name == key) with
      | none =>
          refine ih (fills.skip ?_)
          intro inside
          obtain ⟨member, inside, same⟩ := List.mem_map.mp inside
          exact absurd same (ne_of_beq_false (List.findIdx?_eq_none_iff.mp known member inside))
      | some place =>
          obtain ⟨inside, named, -⟩ := List.findIdx?_eq_some_iff_getElem.mp known
          have found := List.getElem?_eq_getElem inside
          have same := beq_iff_eq.mp named
          obtain ⟨datum, fitted, -⟩ := fills.fitted found (by rw [same]; exact List.mem_cons_self)
          simp only [found, fitted]
          exact ih (fills.fill distinct found same fitted)

/-! ## Arrays -/

theorem Taken.cons {member : MemberFit} {value : Datum} (taken : Taken fits look values)
    (takes : member.Takes (look member.name) value) :
    Taken (member :: fits) look (value :: values) where
  length_eq := congrArg Nat.succ taken.length_eq
  takes {i other held} found' held' := by
    cases i with
    | zero =>
        cases found'
        cases held'
        exact takes
    | succ i => exact taken.takes (i := i) found' held'

theorem Taken.uncons {member : MemberFit} (taken : Taken (member :: fits) look values) :
    ∃ value others, values = value :: others ∧ member.Takes (look member.name) value ∧
      Taken fits look others := by
  cases values with
  | nil => cases taken.length_eq
  | cons value others =>
      refine ⟨value, others, rfl, taken.takes (i := 0) rfl rfl, Nat.succ.inj taken.length_eq, ?_⟩
      intro i other held found held'
      exact taken.takes (i := i + 1) found held'

theorem Taken.eq_nil (taken : Taken [] look values) : values = [] :=
  List.length_eq_zero_iff.mp taken.length_eq

theorem taken_of_fitItems {record : String} {size place : Nat} {items : List Node}
    {values : List Datum} (fitted : fitItems record size fits place items = .ok values)
    (found : ∀ (i : Nat) (member : MemberFit), fits[i]? = some member →
      look member.name = items[i]?) :
    Taken fits look values := by
  fun_induction fitItems record size fits place items generalizing values with
  | case1 place items =>
      cases fitted
      exact ⟨rfl, fun found => nomatch found⟩
  | case2 member later place defaulted ih =>
      obtain ⟨others, result, rfl⟩ := exists_of_map_eq_ok fitted
      refine (ih result fun i other held => found (i + 1) other held).cons ?_
      rw [found 0 member rfl]
      rfl
  | case3 member later place required => cases fitted
  | case4 member later place node nodes ih =>
      obtain ⟨value, taken, fitted⟩ := exists_of_bind_eq_ok fitted
      obtain ⟨others, result, fitted⟩ := exists_of_bind_eq_ok fitted
      cases fitted
      refine (ih result fun i other held => found (i + 1) other held).cons ?_
      rw [found 0 member rfl]
      exact taken

/-! ## Records -/

theorem tabulates_memberFits (members : Members) :
    Tabulates MemberFit.name MemberFit.fit fitShape members (memberFits members) := by
  cases members with
  | nil => exact .nil
  | cons _ _ _ rest => exact .cons rfl rfl (tabulates_memberFits rest)

theorem names_memberFits (members : Members) : (memberFits members).map (·.name) = members.names :=
  (tabulates_memberFits members).names

/-- A table whose members may all be missing is read from what it has for each
of them. -/
theorem fitShape_record_eq {record : String} {members : Members} (distinct : members.names.Nodup)
    (lenient : members.lenient = true) {node : Node} {entries : Entries}
    (table : node.entries? = some entries) {values : List Datum}
    (reads : MembersRead fitShape entries members values) :
    fitShape (.record record members) node = .ok (.record values) := by
  obtain ⟨target, fills, complete⟩ := (tabulates_memberFits members).exists_fills lenient reads
  rw [← names_memberFits] at distinct
  rw [fitShape, fitRecord, table]
  simp only [fitEntries_eq distinct fills, ok_bind, complete]
  rfl

/-- In front of the first entry every slot is empty. -/
theorem taken_nil (fits : List MemberFit) :
    Taken fits (valueOf? []) (valuesIn (fits.map fun _ => none)) where
  length_eq := by rw [length_valuesIn, List.length_map]
  takes {i member value} found held := by
    rw [valuesIn, List.getElem?_map, List.getElem?_map, found] at held
    exact (Option.some.inj held).symm

/-- A record that fits has for every member the fit of what the node has under
its name. -/
theorem taken_of_fitRecord {record : String} {members : Members} {node : Node} {datum : Datum}
    (distinct : members.names.Nodup)
    (fitted : fitRecord record members (memberFits members) node = .ok datum) :
    ∃ values, datum = .record values ∧
      Taken (memberFits members) (node.member? members.names) values := by
  rw [← names_memberFits] at distinct
  unfold fitRecord at fitted
  split at fitted
  next entries _ table =>
    obtain ⟨slots, result, fitted⟩ := exists_of_bind_eq_ok fitted
    obtain ⟨values, complete, fitted⟩ := exists_of_bind_eq_ok fitted
    cases fitted
    have taken := taken_of_fitEntries distinct (taken_nil (memberFits members)) result
    have size : slots.length = members.names.length := by
      rw [← names_memberFits, List.length_map, ← taken.length_eq, length_valuesIn]
    rw [valuesIn_of_completeRecord size complete] at taken
    refine ⟨values, rfl, taken.congr ?_⟩
    intro member _
    simp only [Node.member?, table, List.nil_append]
  next items noTable array =>
    obtain ⟨values, result, rfl⟩ := exists_of_map_eq_ok fitted
    refine ⟨values, rfl, taken_of_fitItems result ?_⟩
    intro i member found
    have place : placeOf? member.name members.names = some i := by
      rw [← names_memberFits]
      apply placeOf?_of_getElem? distinct
      rw [List.getElem?_map, found]
      rfl
    simp only [Node.member?, noTable, array, place, Option.bind_some]
  next => cases fitted

end ReservationLoad.Toml

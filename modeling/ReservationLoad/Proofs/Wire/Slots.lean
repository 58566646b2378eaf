import Mathlib.Data.List.Forall2
import ReservationLoad.Proofs.Wire.Missing
import ReservationLoad.Proofs.Wire.Records

/-!
# Filling the slots of a record

The members of a record are put into their slots in the order in which they are
written, among members that the record does not know.  What is in the slots
afterwards depends on what each known name stands for, and on nothing else.
-/

namespace ReservationLoad.Wire

/-! ## What a name stands for -/

section Holds

variable {ν : Type} {entries : List (String × ν)} {key : String} {value : ν}

/-- This is what the entries have under the key: one value, or none. -/
def Holds (entries : List (String × ν)) (key : String) (found : Option ν) : Prop :=
  (entries.filter fun entry => entry.1 == key).map Prod.snd = found.toList

theorem mem_iff_of_holds {found : Option ν} (holds : Holds entries key found) :
    (key, value) ∈ entries ↔ found = some value := by
  rw [← Option.mem_toList, ← holds, List.mem_map]
  constructor
  · intro inside
    exact ⟨(key, value), List.mem_filter.mpr ⟨inside, beq_self_eq_true key⟩, rfl⟩
  · rintro ⟨⟨name, value⟩, inside, rfl⟩
    obtain ⟨inside, same⟩ := List.mem_filter.mp inside
    rw [← eq_of_beq same]
    exact inside

theorem count_eq_of_holds {found : Option ν} (holds : Holds entries key found) :
    (entries.map Prod.fst).count key = found.toList.length := by
  rw [← holds, List.length_map, List.count, List.countP_map, List.countP_eq_length_filter]
  rfl

theorem holds_none (missing : key ∉ entries.map Prod.fst) : Holds entries key none := by
  rw [Holds, List.filter_eq_nil_iff.mpr]
  · rfl
  · intro entry inside same
    rw [← eq_of_beq same] at missing
    exact missing (List.mem_map_of_mem inside)

theorem holds_cons_ne {other : String} {found : Option ν} (apart : other ≠ key)
    (holds : Holds entries key found) : Holds ((other, value) :: entries) key found := by
  rw [Holds, List.filter_cons_of_neg]
  · exact holds
  · exact fun same => apart (eq_of_beq same)

theorem holds_cons_self (missing : key ∉ entries.map Prod.fst) :
    Holds ((key, value) :: entries) key (some value) := by
  rw [Holds, List.filter_cons_of_pos, List.map_cons, holds_none missing]
  · rfl
  · exact beq_self_eq_true key

theorem holds_of_mem (distinct : (entries.map Prod.fst).Nodup) (inside : (key, value) ∈ entries) :
    Holds entries key (some value) := by
  induction entries with
  | nil => cases inside
  | cons entry entries ih =>
      obtain ⟨once, others⟩ := List.nodup_cons.mp distinct
      rcases List.mem_cons.mp inside with rfl | later
      · exact holds_cons_self once
      · have apart : entry.1 ≠ key := by
          intro same
          rw [same] at once
          exact once (List.mem_map_of_mem (f := Prod.fst) later)
        exact holds_cons_ne apart (ih others later)

/-- A name stands for the same in whatever order the entries are. -/
theorem Holds.perm {other : List (String × ν)} {found : Option ν}
    (holds : Holds entries key found) (same : entries.Perm other) : Holds other key found := by
  have perm := (same.filter fun entry => entry.1 == key).map Prod.snd
  rw [Holds] at holds ⊢
  rw [holds] at perm
  cases found with
  | none => exact List.nil_perm.mp perm
  | some value => exact (List.singleton_perm.mp perm).symm

/-- Where there are fewer entries, a name stands for the same or for nothing. -/
theorem Holds.sublist {fewer : List (String × ν)} {found : Option ν}
    (holds : Holds entries key found) (sublist : fewer.Sublist entries) :
    Holds fewer key none ∨ Holds fewer key found := by
  have left := (sublist.filter fun entry => entry.1 == key).map Prod.snd
  rw [holds] at left
  cases found with
  | none => exact .inl (List.sublist_nil.mp left)
  | some value => exact List.sublist_singleton.mp left

theorem Holds.append_left {others : List (String × ν)} {found : Option ν}
    (holds : Holds entries key found) (missing : key ∉ others.map Prod.fst) :
    Holds (entries ++ others) key found := by
  have none := holds_none missing
  rw [Holds] at holds none ⊢
  rw [List.filter_append, List.map_append, holds, none]
  exact List.append_nil _

/-- The entries for those of the settings that are there. -/
def present (settings : List (String × Option ν)) : List (String × ν) :=
  settings.filterMap fun setting => setting.2.map fun value => (setting.1, value)

theorem sublist_names_present : ∀ settings : List (String × Option ν),
    ((present settings).map Prod.fst).Sublist (settings.map Prod.fst)
  | [] => .slnil
  | (name, none) :: settings => (sublist_names_present settings).cons name
  | (name, some _) :: settings => (sublist_names_present settings).cons_cons name

theorem holds_present {settings : List (String × Option ν)}
    (distinct : (settings.map Prod.fst).Nodup) {found : Option ν}
    (inside : (key, found) ∈ settings) : Holds (present settings) key found := by
  induction settings with
  | nil => cases inside
  | cons setting settings ih =>
      rcases setting with ⟨name, held⟩
      obtain ⟨once, others⟩ := List.nodup_cons.mp distinct
      rcases List.mem_cons.mp inside with same | later
      · cases same
        have missing : key ∉ (present settings).map Prod.fst :=
          fun again => once ((sublist_names_present settings).subset again)
        cases found with
        | none => exact holds_none missing
        | some value => exact holds_cons_self missing
      · have apart : name ≠ key := by
          rintro rfl
          have again := List.mem_map_of_mem (f := Prod.fst) later
          exact once again
        cases held with
        | none => exact ih others later
        | some value => exact holds_cons_ne apart (ih others later)

end Holds

/-! ## Slots -/

section Fills

variable {ε μ ν : Type} {name : μ → String} {fit : μ → ν → Except ε Datum} {known : List μ}
  {key : String} {value : ν} {entries : List (String × ν)} {slots target : Slots}

/-- With these entries the slots become `target`: every known name is there at
most once and its value fits what stands in its place of `target`; a name that
is not there has its slot already. -/
structure Fills (name : μ → String) (fit : μ → ν → Except ε Datum) (known : List μ)
    (entries : List (String × ν)) (slots target : Slots) : Prop where
  size : slots.length = known.length
  targetSize : target.length = known.length
  once : ∀ member ∈ known, (entries.map Prod.fst).count (name member) ≤ 1
  absent : ∀ {i : Nat} {member : μ}, known[i]? = some member →
    name member ∉ entries.map Prod.fst → slots[i]? = target[i]?
  empty : ∀ {i : Nat} {member : μ}, known[i]? = some member →
    name member ∈ entries.map Prod.fst → slots[i]? = some none
  fitted : ∀ {i : Nat} {member : μ} {value : ν}, known[i]? = some member →
    (name member, value) ∈ entries →
      ∃ datum, fit member value = .ok datum ∧ target[i]? = some (some datum)

namespace Fills

/-- When every entry is in its slot, the slots are full. -/
theorem eq_target (fills : Fills name fit known [] slots target) : slots = target := by
  apply List.ext_getElem?
  intro i
  cases found : known[i]? with
  | none =>
      have outside := List.getElem?_eq_none_iff.mp found
      have size := fills.size
      have targetSize := fills.targetSize
      rw [List.getElem?_eq_none (by omega), List.getElem?_eq_none (by omega)]
  | some member => exact fills.absent found List.not_mem_nil

/-- A name that no member has is passed over. -/
theorem skip (fills : Fills name fit known ((key, value) :: entries) slots target)
    (unknown : key ∉ known.map name) : Fills name fit known entries slots target where
  size := fills.size
  targetSize := fills.targetSize
  once member inside := by
    have both := fills.once member inside
    rw [List.map_cons, List.count_cons] at both
    omega
  absent {i member} found missing := by
    apply fills.absent found
    rw [List.map_cons, List.mem_cons]
    rintro (same | inside)
    · exact unknown (List.mem_map.mpr ⟨member, List.mem_of_getElem? found, same⟩)
    · exact missing inside
  empty found inside := fills.empty found (List.mem_cons_of_mem _ inside)
  fitted found inside := fills.fitted found (List.mem_cons_of_mem _ inside)

/-- A known name fills its slot, which was empty. -/
theorem fill (distinct : (known.map name).Nodup)
    (fills : Fills name fit known ((key, value) :: entries) slots target) {place : Nat}
    {member : μ} {datum : Datum} (found : known[place]? = some member)
    (same : name member = key) (fitted : fit member value = .ok datum) :
    Fills name fit known entries (slots.set place (some datum)) target where
  size := by rw [List.length_set, fills.size]
  targetSize := fills.targetSize
  once member inside := by
    have both := fills.once member inside
    rw [List.map_cons, List.count_cons] at both
    omega
  absent {i other} found' missing := by
    by_cases here : place = i
    · subst here
      cases found.symm.trans found'
      obtain ⟨expected, result, slot⟩ := fills.fitted found (by rw [same]; exact List.mem_cons_self)
      cases fitted.symm.trans result
      rw [slot, List.getElem?_set_self]
      rw [fills.size]
      exact (List.getElem?_eq_some_iff.mp found).1
    · rw [List.getElem?_set_ne here]
      apply fills.absent found'
      rw [List.map_cons, List.mem_cons]
      rintro (named | inside)
      · exact here (index_eq_of_nodup_map distinct found found' (same.trans named.symm))
      · exact missing inside
  empty {i other} found' inside := by
    have apart : place ≠ i := by
      rintro rfl
      cases found.symm.trans found'
      have both := fills.once member (List.mem_of_getElem? found)
      have again := List.count_pos_iff.mpr inside
      rw [List.map_cons, List.count_cons, beq_iff_eq.mpr same.symm, if_pos rfl] at both
      omega
    rw [List.getElem?_set_ne apart]
    exact fills.empty found' (List.mem_cons_of_mem _ inside)
  fitted found' inside := fills.fitted found' (List.mem_cons_of_mem _ inside)

end Fills

/-- What the entries have for a member of a record fits what is in the slot. -/
def Gives (entries : List (String × ν)) (name : String) (fit : ν → Except ε Datum)
    (slot : Option Datum) : Prop :=
  ∃ found, Holds entries name found ∧ Option.Rel (fun value datum => fit value = .ok datum) found slot

theorem exists_getElem?_of_forall₂ {α β : Type} {related : α → β → Prop} {first : List α}
    {second : List β} (all : List.Forall₂ related first second) {i : Nat} {a : α}
    (found : first[i]? = some a) : ∃ b, second[i]? = some b ∧ related a b := by
  induction all generalizing i with
  | nil => cases found
  | cons here _ ih =>
      cases i with
      | zero =>
          cases found
          exact ⟨_, rfl, here⟩
      | succ i => exact ih found

theorem fills_of_gives
    (gives : List.Forall₂ (fun member slot => Gives entries (name member) (fit member) slot)
      known target) :
    Fills name fit known entries (known.map fun _ => none) target := by
  refine ⟨List.length_map _, gives.length_eq.symm, ?once, ?absent, ?empty, ?fitted⟩
  case once =>
    intro member inside
    obtain ⟨i, found⟩ := List.getElem?_of_mem inside
    obtain ⟨slot, -, under, holds, -⟩ := exists_getElem?_of_forall₂ gives found
    rw [count_eq_of_holds holds]
    cases under <;> simp
  case absent =>
    intro i member found missing
    obtain ⟨slot, here, under, holds, rel⟩ := exists_getElem?_of_forall₂ gives found
    rw [List.getElem?_map, found, here]
    cases rel with
    | none => rfl
    | some fitted =>
        exact absurd (List.mem_map_of_mem ((mem_iff_of_holds holds).mpr rfl)) missing
  case empty =>
    intro i member found inside
    rw [List.getElem?_map, found]
    rfl
  case fitted =>
    intro i member value found inside
    obtain ⟨slot, here, under, holds, rel⟩ := exists_getElem?_of_forall₂ gives found
    cases (mem_iff_of_holds holds).mp inside
    cases rel with
    | some fitted => exact ⟨_, fitted, here⟩

end Fills

/-! ## What the entries have for every member -/

/-- What is found for a member is read as this value; what is not there is
absent. -/
def Fits {ε ν : Type} (fit : ν → Except ε Datum) (found : Option ν) (value : Datum) : Prop :=
  ∃ slot, Option.Rel (fun value datum => fit value = .ok datum) found slot ∧
    slot.getD .absent = value

/-- What the entries have for every member is read as its value. -/
def MembersRead {ε ν : Type} (fit : Shape → ν → Except ε Datum) (entries : List (String × ν)) :
    Members → List Datum → Prop
  | .nil, [] => True
  | .cons name _ shape rest, value :: values =>
    (∃ found, Holds entries name found ∧ Fits (fit shape) found value) ∧
      MembersRead fit entries rest values
  | _, _ => False

/-- With fewer entries other members are absent, and the rest are read as before. -/
theorem MembersRead.sublist {ε ν : Type} {fit : Shape → ν → Except ε Datum}
    {entries fewer : List (String × ν)} (sublist : fewer.Sublist entries) :
    ∀ {members : Members} {values : List Datum}, MembersRead fit entries members values →
      ∃ others, MembersRead fit fewer members others
  | .nil, [], _ => ⟨[], trivial⟩
  | .cons _ _ _ _, value :: _, ⟨⟨found, holds, fits⟩, reads⟩ => by
      obtain ⟨others, reads⟩ := reads.sublist sublist
      rcases holds.sublist sublist with gone | kept
      · exact ⟨.absent :: others, ⟨none, gone, none, .none, rfl⟩, reads⟩
      · exact ⟨value :: others, ⟨found, kept, fits⟩, reads⟩

section Tables

variable {ε μ ν : Type} {name : μ → String} {fit : μ → ν → Except ε Datum}
  {read : Shape → ν → Except ε Datum} {known : List μ} {members : Members}

/-- The members of a record by name, each with the reading of its shape. -/
inductive Tabulates (name : μ → String) (fit : μ → ν → Except ε Datum)
    (read : Shape → ν → Except ε Datum) : Members → List μ → Prop
  | nil : Tabulates name fit read .nil []
  | cons {key : String} {need : Need} {shape : Shape} {rest : Members} {member : μ}
      {known : List μ} (named : name member = key) (reading : fit member = read shape)
      (tail : Tabulates name fit read rest known) :
      Tabulates name fit read (.cons key need shape rest) (member :: known)

theorem Tabulates.names (table : Tabulates name fit read members known) :
    known.map name = members.names := by
  induction table with
  | nil => rfl
  | cons named _ _ ih => rw [List.map_cons, named, ih, Members.names]

theorem Tabulates.exists_gives (table : Tabulates name fit read members known)
    {entries : List (String × ν)} {values : List Datum}
    (reads : MembersRead read entries members values) :
    ∃ target, List.Forall₂ (fun member slot => Gives entries (name member) (fit member) slot)
      known target ∧ valuesIn target = values := by
  induction table generalizing values with
  | nil =>
      cases values with
      | nil => exact ⟨[], .nil, rfl⟩
      | cons => exact reads.elim
  | cons named reading _ ih =>
      cases values with
      | nil => exact reads.elim
      | cons value values =>
          obtain ⟨⟨found, holds, slot, rel, held⟩, others⟩ := reads
          obtain ⟨target, gives, rest⟩ := ih others
          rw [← named] at holds
          rw [← reading] at rel
          exact ⟨slot :: target, .cons ⟨found, holds, rel⟩ gives, congrArg₂ List.cons held rest⟩

/-- Completing the record asks for nothing but the names of the entries. -/
theorem Tabulates.completeRecord_eq (table : Tabulates name fit read members known)
    {entries : List (String × ν)} {target : Slots}
    (gives : List.Forall₂ (fun member slot => Gives entries (name member) (fit member) slot)
      known target) :
    completeRecord members target =
      completed (members.firstMissing (entries.map Prod.fst)) (valuesIn target) := by
  induction table generalizing target with
  | nil =>
      cases gives
      rfl
  | @cons key need shape rest member known named reading tail ih =>
      cases gives with
      | @cons _ slot _ later first others =>
      obtain ⟨found, holds, rel⟩ := first
      rw [named] at holds
      cases rel with
      | none =>
          have missing : key ∉ entries.map Prod.fst := by
            rw [← List.count_eq_zero, count_eq_of_holds holds]
            rfl
          rw [completeRecord]
          split
          next optional =>
            rw [ih others, map_completed, Members.firstMissing_optional optional]
            rfl
          next needed =>
            rw [Members.firstMissing_missing needed missing]
            rfl
      | some fitted =>
          have there : key ∈ entries.map Prod.fst :=
            List.mem_map_of_mem ((mem_iff_of_holds holds).mpr rfl)
          rw [completeRecord, ih others, map_completed, Members.firstMissing_present there]
          rfl

/-- Entries that are read as these values fill the slots of the record. -/
theorem Tabulates.exists_target (table : Tabulates name fit read members known)
    {entries : List (String × ν)} {values : List Datum}
    (reads : MembersRead read entries members values) :
    ∃ target, Fills name fit known entries (known.map fun _ => none) target ∧
      completeRecord members target =
        completed (members.firstMissing (entries.map Prod.fst)) values := by
  obtain ⟨target, gives, rfl⟩ := table.exists_gives reads
  exact ⟨target, fills_of_gives gives, table.completeRecord_eq gives⟩

/-- Where every member may be missing, the record is complete. -/
theorem Tabulates.exists_fills (table : Tabulates name fit read members known)
    (lenient : members.lenient = true) {entries : List (String × ν)} {values : List Datum}
    (reads : MembersRead read entries members values) :
    ∃ target, Fills name fit known entries (known.map fun _ => none) target ∧
      completeRecord members target = .ok values := by
  obtain ⟨target, fills, complete⟩ := table.exists_target reads
  rw [Members.firstMissing_eq_none] at complete
  · exact ⟨target, fills, complete⟩
  · rw [Members.required_of_lenient lenient]
    exact fun _ inside => nomatch inside

end Tables

end ReservationLoad.Wire

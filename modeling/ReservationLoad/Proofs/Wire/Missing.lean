import Mathlib.Data.List.Basic
import ReservationLoad.Proofs.Wire.Records

/-!
# Members that are missing

Whether a record can be completed depends on the names that are there: the first
member that has to be there and is not among them is the fault.
-/

namespace ReservationLoad.Wire

namespace Members

/-- The names of the members that have to be there. -/
def required : Members → List String
  | .nil => []
  | .cons name need shape rest =>
    if shape.mayBeMissing need then rest.required else name :: rest.required

/-- May every member of the record be missing? -/
def lenient : Members → Bool
  | .nil => true
  | .cons _ need shape rest => shape.mayBeMissing need && rest.lenient

/-- The first member that has to be there and is not among the names. -/
def firstMissing (members : Members) (names : List String) : Option String :=
  members.required.find? fun name => decide (name ∉ names)

variable {members rest : Members} {names : List String} {name key : String} {need : Need}
  {shape : Shape}

theorem required_of_lenient : ∀ {members : Members}, members.lenient = true → members.required = []
  | .nil, _ => rfl
  | .cons _ _ _ _, lenient => by
      obtain ⟨missing, others⟩ := Bool.and_eq_true_iff.mp lenient
      rw [required, if_pos missing, required_of_lenient others]

theorem firstMissing_optional (optional : shape.mayBeMissing need = true) :
    (Members.cons key need shape rest).firstMissing names = rest.firstMissing names := by
  rw [firstMissing, required, if_pos optional, firstMissing]

theorem firstMissing_present (there : key ∈ names) :
    (Members.cons key need shape rest).firstMissing names = rest.firstMissing names := by
  have passed : decide (key ∉ names) = false := decide_eq_false (not_not_intro there)
  rw [firstMissing, required]
  split
  · rfl
  · simp only [List.find?_cons, passed, firstMissing]

theorem firstMissing_missing (needed : ¬ shape.mayBeMissing need = true) (missing : key ∉ names) :
    (Members.cons key need shape rest).firstMissing names = some key := by
  simp only [firstMissing, required, if_neg needed, List.find?_cons, decide_eq_true missing]

theorem firstMissing_eq_none (all : ∀ name ∈ members.required, name ∈ names) :
    members.firstMissing names = none := by
  rw [firstMissing, List.find?_eq_none]
  intro name inside
  rw [decide_eq_true_eq]
  exact not_not_intro (all name inside)

theorem firstMissing_eq_some (needed : key ∈ members.required) (missing : key ∉ names)
    (others : ∀ name ∈ members.required, name ≠ key → name ∈ names) :
    members.firstMissing names = some key := by
  cases found : members.firstMissing names with
  | none =>
      have there := List.find?_eq_none.mp found key needed
      exact absurd (decide_eq_true missing) there
  | some name =>
      have absent : name ∉ names := by simpa using List.find?_some found
      by_contra other
      have apart : name ≠ key := fun same => other (congrArg some same)
      exact absent (others name (List.mem_of_find?_eq_some found) apart)

theorem mem_required_cons : key ∈ (Members.cons name need shape rest).required ↔
    (¬ shape.mayBeMissing need = true ∧ key = name) ∨ key ∈ rest.required := by
  rw [required]
  split <;> simp_all

/-! ## Values that are given -/

/-- The names of the members that have a value. -/
def given : Members → List Datum → List String
  | .cons _ _ _ rest, .absent :: values => rest.given values
  | .cons name _ _ rest, _ :: values => name :: rest.given values
  | _, _ => []

theorem mem_given_cons {value : Datum} {values : List Datum} :
    key ∈ (Members.cons name need shape rest).given (value :: values) ↔
      (value ≠ .absent ∧ key = name) ∨ key ∈ rest.given values := by
  cases value <;> simp [given]

/-- The values without the one of this name. -/
def without (name : String) : Members → List Datum → List Datum
  | .cons other _ _ rest, value :: values =>
    (if other = name then .absent else value) :: rest.without name values
  | _, values => values

theorem mem_given_without : ∀ {members : Members} {values : List Datum},
    key ∈ members.given (members.without name values) ↔ key ∈ members.given values ∧ key ≠ name
  | .nil, values => by simp [given]
  | .cons _ _ _ _, [] => by simp [without, given]
  | .cons other _ _ rest, value :: values => by
      rw [without, mem_given_cons, mem_given_cons, mem_given_without]
      by_cases same : other = name
      · rw [if_pos same]
        grind
      · rw [if_neg same]
        grind

end Members

/-! ## Completing a record -/

/-- A record with these values, or the fault of the member that is missing. -/
def completed (missing : Option String) (values : List Datum) : Except Mismatch (List Datum) :=
  match missing with
  | none => .ok values
  | some name => .error (.missingMember name)

theorem map_completed (missing : Option String) (value : Datum) (values : List Datum) :
    (completed missing values).map (value :: ·) = completed missing (value :: values) := by
  cases missing <;> rfl

end ReservationLoad.Wire

import ReservationLoad.Proofs.Json.Numeral
import ReservationLoad.Proofs.Json.Text
import ReservationLoad.Proofs.Wire.Records

/-!
# Passing over values

Whatever value stands at the front of a text, it is passed over up to its last
character.  The length of the text is fuel enough: a value needs two steps
for each of its characters at most, and the items of a list one more.
-/

namespace ReservationLoad.Json

/-! ## The first character of a value -/

/-- May a value begin with this character? -/
def startsValue (c : Char) : Bool :=
  c = 'n' || c = 't' || c = 'f' || c = '-' || c = '"' || c = '[' || c = '{' || isDigit c

theorem Passable.head {text rest : List Char} (value : Passable text rest) :
    ∃ first more, text = first :: more ∧ startsValue first = true := by
  cases value with
  | number isNumeral =>
      rcases isNumeral.head with ⟨first, more, token, sign | digit⟩
      · rw [token, sign]
        exact ⟨'-', _, rfl, rfl⟩
      · rw [token]
        exact ⟨first, _, rfl, by simp [startsValue, digit]⟩
  | _ => exact ⟨_, _, rfl, rfl⟩

theorem Passable.head_ne {text rest : List Char} {c : Char} (value : Passable text rest)
    (other : startsValue c = false) (more : List Char) : text ≠ c :: more := by
  rintro rfl
  rcases value.head with ⟨first, others, same, starts⟩
  cases same
  exact absurd starts (by rw [other]; decide)

theorem Passable.ne_nil {text rest : List Char} (value : Passable text rest) : text ≠ [] := by
  rcases value.head with ⟨first, more, rfl, -⟩
  exact List.cons_ne_nil first more

theorem Passable.skipBlank_eq {input text rest : List Char} (value : Passable text rest)
    (gap : Gap input text) : skipBlank input = text := by
  rw [gap.skipBlank_eq]
  cases text with
  | nil => rfl
  | cons c text =>
      apply skipBlank_cons_of_not
      cases visible : isBlank c with
      | false => rfl
      | true =>
          simp only [isBlank, Bool.or_eq_true, decide_eq_true_eq] at visible
          rcases visible with ((rfl | rfl) | rfl) | rfl <;>
            exact absurd rfl (value.head_ne rfl text)

section Written

variable {value : Value} {text rest : List Char} (written : Written value text rest)

include written

theorem Written.head_ne {c : Char} (other : startsValue c = false) (more : List Char) :
    text ≠ c :: more := written.passable.head_ne other more

theorem Written.ne_nil : text ≠ [] := written.passable.ne_nil

theorem Written.skipBlank_eq {input : List Char} (gap : Gap input text) :
    skipBlank input = text := written.passable.skipBlank_eq gap

end Written

/-! ## Values of each kind -/

theorem skipValue_of_isDigit {first : Char} (digit : first.isDigit = true) (fuel : Nat)
    {input rest : List Char} (front : skipBlank input = first :: rest) :
    skipValue (fuel + 1) input = skipNumber (first :: rest) := by
  have other : ∀ {c : Char}, c.isDigit = false → first ≠ c := by
    rintro c noDigit rfl
    exact absurd digit (by rw [noDigit]; decide)
  rw [skipValue, front]
  split
  next none => cases none
  next same => exact absurd (List.head_eq_of_cons_eq same) (other rfl)
  next same => exact absurd (List.head_eq_of_cons_eq same) (other rfl)
  next same => exact absurd (List.head_eq_of_cons_eq same) (other rfl)
  next same => exact absurd (List.head_eq_of_cons_eq same) (other rfl)
  next same => exact absurd (List.head_eq_of_cons_eq same) (other rfl)
  next same => exact absurd (List.head_eq_of_cons_eq same) (other rfl)
  next same => exact absurd (List.head_eq_of_cons_eq same) (other rfl)
  next same =>
    cases same
    rw [isDigit_eq, if_pos digit]

theorem skipValue_number {token rest : List Char} (isNumeral : IsNumeral token)
    (ends : EndsNumeral rest) (fuel : Nat) {input : List Char}
    (front : skipBlank input = token ++ rest) : skipValue (fuel + 1) input = .ok rest := by
  cases isNumeral with
  | positive unsigned =>
      rw [← skipNumber_append unsigned ends]
      rcases unsigned.head_isDigit with ⟨first, more, rfl, digit⟩
      exact skipValue_of_isDigit digit fuel front
  | negative unsigned =>
      rw [skipValue, front]
      exact skipNumber_append unsigned ends

theorem skipValue_list {fuel : Nat} {input inside start : List Char}
    (front : skipBlank input = '[' :: inside) (item : skipBlank inside = start)
    (unclosed : ∀ more, start ≠ ']' :: more) (nonempty : start ≠ []) :
    skipValue (fuel + 1) input = skipItems fuel start := by
  rw [skipValue, front]
  simp only [item]

theorem skipValue_object {fuel : Nat} {input inside start : List Char}
    (front : skipBlank input = '{' :: inside) (name : skipBlank inside = '"' :: start) :
    skipValue (fuel + 1) input = skipMembers fuel ('"' :: start) := by
  rw [skipValue, front]
  simp only [name]
  rfl

/-- Passes over what stands behind an item of a list. -/
def skipItemsBehind (fuel : Nat) (rest : List Char) : Except Fault (List Char) :=
  match skipBlank rest with
  | ',' :: rest => skipItems fuel rest
  | ']' :: rest => .ok rest
  | [] => .error .ended
  | _ => .error .malformed

/-- Passes over what stands behind a member of an object. -/
def skipMembersBehind (fuel : Nat) (rest : List Char) : Except Fault (List Char) :=
  match skipBlank rest with
  | ',' :: rest => skipMembers fuel rest
  | '}' :: rest => .ok rest
  | [] => .error .ended
  | _ => .error .malformed

theorem skipItems_succ {fuel : Nat} {input behind : List Char}
    (item : skipValue fuel input = .ok behind) :
    skipItems (fuel + 1) input = skipItemsBehind fuel behind := by
  rw [skipItems, item]
  rfl

theorem skipMembers_succ {fuel : Nat} {input inside behindName behindColon behind : List Char}
    (gapName : Gap input ('"' :: inside)) (quoted : Quoted inside behindName)
    (gapColon : Gap behindName (':' :: behindColon))
    (value : skipValue fuel behindColon = .ok behind) :
    skipMembers (fuel + 1) input = skipMembersBehind fuel behind := by
  simp only [skipMembers, gapName.skipBlank_eq_cons (c := '"') rfl, quoted.skipText_eq,
    Wire.ok_bind, gapColon.skipBlank_eq_cons (c := ':') rfl, pure_bind, value]
  rfl

/-! ## The induction over the text -/

mutual

theorem Passable.skipValue_eq {text rest : List Char} :
    Passable text rest → ∀ {input : List Char} {fuel : Nat}, Gap input text →
      2 * input.length ≤ fuel + 2 * rest.length → skipValue fuel input = .ok rest
  | value, input, fuel, gap, enough => by
      have shorter := value.length_lt
      have front := gap.length_le
      obtain ⟨fuel, rfl⟩ : ∃ less, fuel = less + 1 := ⟨fuel - 1, by omega⟩
      have first := value.skipBlank_eq gap
      match value with
      | .null => rw [skipValue, first]; rfl
      | .yes => rw [skipValue, first]; rfl
      | .no => rw [skipValue, first]; rfl
      | .number isNumeral ends => exact skipValue_number isNumeral ends fuel first
      | .text quoted =>
          rw [skipValue, first]
          exact quoted.skipText_eq
      | .list (.close gap) =>
          rw [skipValue, first]
          simp only [gap.skipBlank_eq_cons (c := ']') rfl]
      | .list (.next .first gap item more) =>
          have space := gap.length_le
          have itemShorter := item.length_lt
          have others := more.length_lt
          simp only [List.length_cons] at front
          obtain ⟨fuel, rfl⟩ : ∃ less, fuel = less + 1 := ⟨fuel - 1, by omega⟩
          rw [skipValue_list first (item.skipBlank_eq gap) (item.head_ne rfl) item.ne_nil]
          rw [skipItems_succ (item.skipValue_eq .none (by omega))]
          exact more.skipItemsBehind_eq rfl (by omega)
      | .object (.close gap) =>
          rw [skipValue, first]
          simp only [gap.skipBlank_eq_cons (c := '}') rfl]
      | .object (.next .first gapName quoted gapColon gapValue value more) =>
          have name := gapName.length_le
          have inside := quoted.length_lt
          have colon := gapColon.length_le
          have space := gapValue.length_le
          have valueShorter := value.length_lt
          have others := more.length_lt
          simp only [List.length_cons] at front name colon
          obtain ⟨fuel, rfl⟩ : ∃ less, fuel = less + 1 := ⟨fuel - 1, by omega⟩
          rw [skipValue_object first (gapName.skipBlank_eq_cons rfl)]
          rw [skipMembers_succ .none quoted gapColon (value.skipValue_eq gapValue (by omega))]
          exact more.skipMembersBehind_eq rfl (by omega)

theorem PassableItems.skipItemsBehind_eq {first : Bool} {text rest : List Char} :
    PassableItems first text rest → first = false → ∀ {fuel : Nat},
      2 * text.length ≤ fuel + 2 * rest.length + 1 → skipItemsBehind fuel text = .ok rest
  | .close gap, _, fuel, enough => by
      simp only [skipItemsBehind, gap.skipBlank_eq_cons (c := ']') rfl]
  | .next (.next gapComma) gap item more, _, fuel, enough => by
      have comma := gapComma.length_le
      have space := gap.length_le
      have shorter := item.length_lt
      have others := more.length_lt
      simp only [List.length_cons] at comma
      obtain ⟨fuel, rfl⟩ : ∃ less, fuel = less + 1 := ⟨fuel - 1, by omega⟩
      rw [skipItemsBehind, gapComma.skipBlank_eq_cons rfl]
      simp only
      rw [skipItems_succ (item.skipValue_eq gap (by omega))]
      exact more.skipItemsBehind_eq rfl (by omega)

theorem PassableMembers.skipMembersBehind_eq {first : Bool} {text rest : List Char} :
    PassableMembers first text rest → first = false → ∀ {fuel : Nat},
      2 * text.length ≤ fuel + 2 * rest.length + 1 → skipMembersBehind fuel text = .ok rest
  | .close gap, _, fuel, enough => by
      simp only [skipMembersBehind, gap.skipBlank_eq_cons (c := '}') rfl]
  | .next (.next gapComma) gapName quoted gapColon gapValue value more, _, fuel, enough => by
      have comma := gapComma.length_le
      have name := gapName.length_le
      have inside := quoted.length_lt
      have colon := gapColon.length_le
      have space := gapValue.length_le
      have shorter := value.length_lt
      have others := more.length_lt
      simp only [List.length_cons] at comma name colon
      obtain ⟨fuel, rfl⟩ : ∃ less, fuel = less + 1 := ⟨fuel - 1, by omega⟩
      rw [skipMembersBehind, gapComma.skipBlank_eq_cons rfl]
      simp only
      rw [skipMembers_succ gapName quoted gapColon (value.skipValue_eq gapValue (by omega))]
      exact more.skipMembersBehind_eq rfl (by omega)

end

/-- The value at the front of a text is passed over, whatever it is. -/
theorem Passable.skip_eq {input text rest : List Char} (value : Passable text rest)
    (gap : Gap input text) : skip input = .ok rest :=
  value.skipValue_eq gap (by omega)

theorem Written.skip_eq {value : Value} {input text rest : List Char}
    (written : Written value text rest) (gap : Gap input text) : skip input = .ok rest :=
  written.passable.skip_eq gap

end ReservationLoad.Json

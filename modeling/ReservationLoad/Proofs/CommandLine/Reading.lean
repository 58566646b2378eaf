import Mathlib.Data.List.TakeWhile
import ReservationLoad.CommandLine.Reader
import ReservationLoad.Proofs.Text.Numerals
import ReservationLoad.Proofs.Wire.Records

/-!
# One argument after the other

The value of an option is looked at late, when the next option begins or the
arguments end.  As long as it is a good value this makes no difference: it may
as well be looked at early, before anything behind it is read.  So an option
with its value can be followed as one step, in either way of writing it.
-/

namespace ReservationLoad.CommandLine

variable {setting : Setting} {value argument : String}

/-! ## Names -/

theorem Setting.ofName?_name (setting : Setting) : Setting.ofName? setting.name = some setting := by
  cases setting <;> rfl

theorem Setting.noEquals_name (setting : Setting) :
    ∀ c ∈ setting.name.toList, decide (c ≠ '=') = true := by
  cases setting <;> exact List.all_eq_true.mp (by decide)

/-! ## Digits -/

theorem readWord_toString (setting : Setting) (v : UInt64) :
    readWord setting (toString v.toNat) = .ok v := by
  have read : Text.readWord (toString v.toNat).toList = .ok v := by
    rw [Decimal.toList_toString]
    exact Text.readWord_eq_ok_iff.mpr (Text.isNumeral_ofNat v.toNat)
  rw [readWord, read]

/-- Digits start with no hyphen. -/
theorem toString_plain (n : Nat) : ∀ tail, (toString n).toList ≠ '-' :: tail := by
  rw [Decimal.toList_toString]
  exact Decimal.ofNat_ne_minus n

/-! ## Looking at a value early -/

namespace Reading

variable {r s : Reading}

/-- What the arguments say once further ones have been read. -/
def finish (r : Reading) (arguments : List String) : Except Fault Arguments := do
  let reading ← arguments.foldlM take r
  pure (← reading.settle).arguments

theorem finish_nil (r : Reading) : r.finish [] = r.settle >>= fun s => pure s.arguments := rfl

theorem finish_append (r : Reading) (front behind : List String) :
    r.finish (front ++ behind) = front.foldlM take r >>= fun s => s.finish behind := by
  rw [finish, List.foldlM_append]
  exact bind_assoc _ _ _

theorem finish_cons (r : Reading) (argument : String) (behind : List String) :
    r.finish (argument :: behind) = r.take argument >>= fun s => s.finish behind := by
  rw [finish, List.foldlM_cons]
  exact bind_assoc _ _ _

theorem accept_eq_ok (accepted : r.accept setting value = .ok s) :
    setting ∉ r.given ∧ ∃ arguments, r.arguments.assign setting value = .ok arguments ∧
      s = { r with arguments, given := setting :: r.given } := by
  unfold accept at accepted
  split at accepted
  next => cases accepted
  next fresh =>
    obtain ⟨arguments, assigned, rfl⟩ := Wire.exists_of_map_eq_ok accepted
    exact ⟨fun inside => fresh (List.contains_iff_mem.mpr inside), arguments, assigned, rfl⟩

/-- Only an option that has its value can be settled. -/
theorem settle_eq_ok (settled : r.settle = .ok s) :
    (r.pending = none ∧ s = r) ∨ ∃ setting value, r.pending = some ⟨setting, some value⟩ ∧
      { r with pending := none }.accept setting value = .ok s := by
  unfold settle at settled
  split at settled
  next empty =>
    cases settled
    exact .inl ⟨empty, rfl⟩
  next => cases settled
  next setting value held => exact .inr ⟨setting, value, held, settled⟩

theorem pending_of_settle (settled : r.settle = .ok s) :
    s.pending = none ∧ s.closed = r.closed := by
  rcases settle_eq_ok settled with ⟨empty, rfl⟩ | ⟨setting, value, -, accepted⟩
  · exact ⟨empty, rfl⟩
  · obtain ⟨-, arguments, -, rfl⟩ := accept_eq_ok accepted
    exact ⟨rfl, rfl⟩

theorem settle_of_pending (empty : r.pending = none) : r.settle = .ok r := by
  rw [settle, empty]

theorem takePlain_of_settle (settled : r.settle = .ok s) (argument : String) :
    r.takePlain argument = s.takePlain argument := by
  unfold takePlain
  rw [(pending_of_settle settled).1]
  rcases settle_eq_ok settled with ⟨empty, -⟩ | ⟨setting, value, held, -⟩
  · rw [empty]
  · rw [held]

theorem takeOption_of_settle (settled : r.settle = .ok s) (argument : String)
    (text : List Char) : r.takeOption argument text = s.takeOption argument text := by
  unfold takeOption
  rw [settled, settle_of_pending (pending_of_settle settled).1]

/-- It makes no difference whether the value in front is looked at before the
next argument is taken. -/
theorem take_of_settle (settled : r.settle = .ok s) (argument : String) :
    r.take argument = s.take argument ∨
      r.take argument = .ok { r with closed := true } ∧
        s.take argument = .ok { s with closed := true } := by
  obtain ⟨empty, closed⟩ := pending_of_settle settled
  unfold take
  rw [closed]
  split
  next => exact .inl rfl
  next =>
    split
    next => exact .inr ⟨rfl, rfl⟩
    next => exact .inl (takeOption_of_settle settled _ _)
    next => exact .inl (takePlain_of_settle settled _)
    next =>
      rw [settled, settle_of_pending empty]
      exact .inl rfl
    next => exact .inl rfl
    next => exact .inl (takePlain_of_settle settled _)

theorem settle_close (settled : r.settle = .ok s) :
    { r with closed := true }.settle = .ok { s with closed := true } := by
  rcases settle_eq_ok settled with ⟨empty, rfl⟩ | ⟨setting, value, held, accepted⟩
  · exact settle_of_pending empty
  · obtain ⟨fresh, arguments, assigned, rfl⟩ := accept_eq_ok accepted
    have notGiven : ¬ r.given.contains setting = true :=
      fun inside => fresh (List.contains_iff_mem.mp inside)
    simp only [settle, held, accept, if_neg notGiven]
    rw [assigned]
    rfl

theorem finish_of_settle (settled : r.settle = .ok s) (arguments : List String) :
    r.finish arguments = s.finish arguments := by
  -- Two hyphens leave the value pending, every other argument has it looked at.
  induction arguments generalizing r s with
  | nil =>
      rw [finish_nil, finish_nil, settled, settle_of_pending (pending_of_settle settled).1]
  | cons argument arguments ih =>
      rw [finish_cons, finish_cons]
      rcases take_of_settle settled argument with same | ⟨left, right⟩
      · rw [same]
      · rw [left, right, Wire.ok_bind, Wire.ok_bind]
        exact ih (settle_close settled)

/-! ## Options and values -/

theorem take_eq_takeOption (opened : r.closed = false) {text : List Char}
    (chars : argument.toList = '-' :: '-' :: text) (named : text ≠ []) :
    r.take argument = r.takeOption argument text := by
  cases text with
  | nil => exact absurd rfl named
  | cons c text => simp [take, opened, chars]

/-- An argument that starts with no hyphen is a value. -/
theorem take_eq_takePlain (opened : r.closed = false)
    (plain : ∀ tail, argument.toList ≠ '-' :: tail) : r.take argument = r.takePlain argument := by
  unfold take
  rw [opened, if_neg Bool.false_ne_true]
  split
  next same => exact absurd same (plain _)
  next same => exact absurd same (plain _)
  next => rfl
  next same => exact absurd same (plain _)
  next same => exact absurd same (plain _)
  next => rfl

theorem take_attached (opened : r.closed = false) (setting : Setting) (value : String) :
    r.take ("--" ++ setting.name ++ "=" ++ value) =
      r.settle >>= fun s => s.accept setting value := by
  have chars : ("--" ++ setting.name ++ "=" ++ value).toList =
      '-' :: '-' :: (setting.name.toList ++ '=' :: value.toList) := by
    simp
  have all := setting.noEquals_name
  have name : (setting.name.toList ++ '=' :: value.toList).takeWhile (· ≠ '=') =
      setting.name.toList := by
    rw [List.takeWhile_append_of_pos all, List.takeWhile_cons_of_neg (by decide), List.append_nil]
  have rest : (setting.name.toList ++ '=' :: value.toList).dropWhile (· ≠ '=') =
      '=' :: value.toList := by
    rw [List.dropWhile_append_of_pos all, List.dropWhile_cons_of_neg (by decide)]
  rw [take_eq_takeOption opened chars (by simp)]
  simp only [takeOption, name, rest, String.ofList_toList, setting.ofName?_name]

theorem take_bare (opened : r.closed = false) (setting : Setting) :
    r.take ("--" ++ setting.name) =
      r.settle >>= fun s => pure { s with pending := some ⟨setting, none⟩ } := by
  have chars : ("--" ++ setting.name).toList = '-' :: '-' :: setting.name.toList := by
    simp
  have named : setting.name.toList ≠ [] := by cases setting <;> decide
  have all := setting.noEquals_name
  have name : setting.name.toList.takeWhile (· ≠ '=') = setting.name.toList :=
    List.takeWhile_eq_self_iff.mpr all
  have rest : setting.name.toList.dropWhile (· ≠ '=') = [] := List.dropWhile_eq_nil_iff.mpr all
  rw [take_eq_takeOption opened chars named]
  simp only [takeOption, name, rest, String.ofList_toList, setting.ofName?_name]

theorem take_switch (opened : r.closed = false) :
    r.take ("--" ++ Switch.noExport.name) = r.settle >>= fun s => s.turnOn .noExport := by
  have chars : ("--" ++ Switch.noExport.name).toList = '-' :: '-' :: "no-export".toList := by
    decide
  rw [take_eq_takeOption opened chars (by decide)]
  rfl

/-- An option whose value is an argument of its own. -/
theorem finish_separate (opened : r.closed = false) (setting : Setting)
    (plain : ∀ tail, value.toList ≠ '-' :: tail) (behind : List String) :
    r.finish (("--" ++ setting.name) :: value :: behind) =
      r.settle >>= fun s => { s with pending := some ⟨setting, some value⟩ }.finish behind := by
  rw [finish_cons, take_bare opened]
  cases settled : r.settle with
  | error fault => rfl
  | ok s =>
      have still : s.closed = false := (pending_of_settle settled).2.trans opened
      have waiting : { s with pending := some ⟨setting, none⟩ }.take value =
          .ok { s with pending := some ⟨setting, some value⟩ } := take_eq_takePlain still plain
      rw [Wire.ok_bind, pure_bind, finish_cons, waiting, Wire.ok_bind, Wire.ok_bind]

theorem settle_held (empty : r.pending = none) (setting : Setting) (value : String) :
    { r with pending := some ⟨setting, some value⟩ }.settle = r.accept setting value := by
  have same : { r with pending := none } = r := by rw [← empty]
  change { r with pending := none }.accept setting value = _
  rw [same]

end Reading

/-! ## Options as they are written -/

/-- An option as it is written: its value stands behind an equals sign, or in an
argument of its own, which then starts with no hyphen.  The switch has none. -/
inductive Item
  | attached (setting : Setting) (value : String)
  | separate (setting : Setting) (value : String) (plain : ∀ tail, value.toList ≠ '-' :: tail)
  | noExport

namespace Item

/-- The arguments that make up the option. -/
def arguments : Item → List String
  | attached setting value => ["--" ++ setting.name ++ "=" ++ value]
  | separate setting value _ => ["--" ++ setting.name, value]
  | noExport => ["--" ++ Switch.noExport.name]

/-- The setting that is given, and the value that it is given. -/
def gives? : Item → Option (Setting × String)
  | attached setting value => some (setting, value)
  | separate setting value _ => some (setting, value)
  | noExport => none

end Item

namespace Reading

variable {r s : Reading} {item : Item}

/-- Looks at an option at once. -/
def heed (r : Reading) (item : Item) : Except Fault Reading :=
  match item.gives? with
  | some (setting, value) => r.accept setting value
  | none => r.turnOn .noExport

theorem turnOn_eq_ok (turned : r.turnOn .noExport = .ok s) :
    r.arguments.noExport = false ∧
      s = { r with arguments := { r.arguments with noExport := true } } := by
  simp only [turnOn] at turned
  split at turned
  next => cases turned
  next off =>
    cases turned
    exact ⟨Bool.eq_false_iff.mpr off, rfl⟩

/-- An option that has been looked at is not pending. -/
theorem pending_of_heed (heeded : r.heed item = .ok s) :
    s.pending = r.pending ∧ s.closed = r.closed := by
  unfold heed at heeded
  split at heeded
  next =>
    obtain ⟨-, arguments, -, rfl⟩ := accept_eq_ok heeded
    exact ⟨rfl, rfl⟩
  next =>
    obtain ⟨-, rfl⟩ := turnOn_eq_ok heeded
    exact ⟨rfl, rfl⟩

/-- In front of anything, a good option is looked at. -/
theorem finish_item (item : Item) (opened : r.closed = false) (settled : r.settle = .ok s)
    {t : Reading} (heeded : s.heed item = .ok t) (behind : List String) :
    r.finish (item.arguments ++ behind) = t.finish behind := by
  cases item with
  | attached setting value =>
      rw [Item.arguments, List.singleton_append, finish_cons, take_attached opened, settled,
        Wire.ok_bind]
      exact congrArg (· >>= _) heeded
  | separate setting value plain =>
      have held := settle_held (pending_of_settle settled).1 setting value
      rw [Item.arguments, List.cons_append, List.singleton_append, finish_separate opened _ plain,
        settled, Wire.ok_bind]
      exact finish_of_settle (held.trans heeded) behind
  | noExport =>
      rw [Item.arguments, List.singleton_append, finish_cons, take_switch opened, settled,
        Wire.ok_bind]
      exact congrArg (· >>= _) heeded

/-- In front of other options, every option is looked at, be it good or bad. -/
theorem finish_items (opened : r.closed = false) (items : List Item) :
    r.finish (items.flatMap Item.arguments) =
      r.settle >>= fun s => (items.foldlM heed s).map Reading.arguments := by
  induction items generalizing r with
  | nil =>
      rw [List.flatMap_nil, finish_nil]
      rfl
  | cons item items ih =>
      have looked : ∀ s, r.settle = .ok s →
          (s.heed item >>= fun t => t.finish (items.flatMap Item.arguments)) =
            ((item :: items).foldlM heed s).map Reading.arguments := by
        intro s settled
        obtain ⟨empty, closed⟩ := pending_of_settle settled
        rw [List.foldlM_cons]
        cases heeded : s.heed item with
        | error fault => rfl
        | ok t =>
            obtain ⟨pending', closed'⟩ := pending_of_heed heeded
            rw [Wire.ok_bind, Wire.ok_bind, ih (closed'.trans (closed.trans opened)),
              settle_of_pending (pending'.trans empty), Wire.ok_bind]
      rw [List.flatMap_cons]
      cases item with
      | attached setting value =>
          rw [Item.arguments, List.singleton_append, finish_cons, take_attached opened]
          cases settled : r.settle with
          | error fault => rfl
          | ok s => exact looked s settled
      | separate setting value plain =>
          rw [Item.arguments, List.cons_append, List.singleton_append,
            finish_separate opened _ plain]
          cases settled : r.settle with
          | error fault => rfl
          | ok s =>
              obtain ⟨empty, closed⟩ := pending_of_settle settled
              have later := ih (r := { s with pending := some ⟨setting, some value⟩ })
                (closed.trans opened)
              rw [settle_held empty] at later
              rw [Wire.ok_bind, Wire.ok_bind, later, List.foldlM_cons]
              change _ = Except.map _ (s.accept setting value >>= _)
              cases s.accept setting value <;> rfl
      | noExport =>
          rw [Item.arguments, List.singleton_append, finish_cons, take_switch opened]
          cases settled : r.settle with
          | error fault => rfl
          | ok s => exact looked s settled

end Reading

/-- Options are read one after the other, each as soon as it comes. -/
theorem read_items (items : List Item) :
    read (items.flatMap Item.arguments) = (items.foldlM Reading.heed {}).map Reading.arguments :=
  Reading.finish_items rfl items

end ReservationLoad.CommandLine

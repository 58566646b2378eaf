import ReservationLoad.Proofs.CommandLine.Reading

/-!
# Values on the command line

What a setting has as its value is a text for every kind of setting, and the
arguments are settled by these texts and by the switch.  Reading such a text
gives a setting that value again and changes no other one; a text that is
refused is refused by a fault that names the setting.
-/

namespace ReservationLoad

theorem Mode.ofWord?_word (mode : Mode) : ofWord? mode.word = some mode := by
  cases mode <;> rfl

namespace CommandLine

variable {a b c : Arguments} {setting : Setting} {text : String} {limit : Nat} {x : Int}

/-! ## The values of a setting -/

/-- The text of the value that the arguments have for a setting, if they have
one. -/
def Arguments.value? (a : Arguments) : Setting → Option String
  | .config => a.config
  | .mode => some a.mode.word
  | .workers => a.workers.map fun n => toString n.toNat
  | .totalRequests => a.totalRequests.map fun n => toString n.toNat
  | .timeoutMs => a.timeoutMs.map fun n => toString n.toNat
  | .url => a.url
  | .seed => a.seed.map fun n => toString n.toNat
  | .logEvery => a.logEvery.map fun n => toString n.toNat
  | .mockStatus => some (toString a.mockStatus.toNat)
  | .mockDelayMs => some (toString a.mockDelayMs.toNat)
  | .resultsDir => some a.resultsDir

/-- No path of the arguments is empty. -/
def Arguments.HasPaths (a : Arguments) : Prop := a.config ≠ some "" ∧ a.resultsDir ≠ ""

/-- The number that the numbers of a setting stay below, if it has numbers. -/
def Setting.limit? : Setting → Option Nat
  | .workers | .totalRequests | .timeoutMs | .seed | .logEvery | .mockDelayMs => some UInt64.size
  | .mockStatus => some UInt16.size
  | .config | .mode | .url | .resultsDir => none

theorem toString_injective {m n : Nat} (same : toString m = toString n) : m = n := by
  apply Decimal.ofNat_injective
  rw [← Decimal.toList_toString, same, Decimal.toList_toString]

theorem word_injective : Function.Injective fun n : UInt64 => toString n.toNat :=
  fun _ _ same => UInt64.toNat_inj.mp (toString_injective same)

/-- Arguments are settled by the texts of their values and by the switch. -/
theorem Arguments.eq_of_value? (values : ∀ setting, a.value? setting = b.value? setting)
    (switch : a.noExport = b.noExport) : a = b := by
  have words := Option.map_injective word_injective
  rcases a with ⟨_, mode, _, _, _, _, _, _, status, delay, _, _⟩
  rcases b with ⟨_, mode', _, _, _, _, _, _, status', delay', _, _⟩
  have mode : mode = mode' := by
    have word := congrArg Mode.ofWord? (Option.some.inj (values .mode))
    rw [Mode.ofWord?_word, Mode.ofWord?_word] at word
    exact Option.some.inj word
  have status : status = status' :=
    UInt16.toNat_inj.mp (toString_injective (Option.some.inj (values .mockStatus)))
  have delay : delay = delay' := word_injective (Option.some.inj (values .mockDelayMs))
  congr 1
  · exact values .config
  · exact words (values .workers)
  · exact words (values .totalRequests)
  · exact words (values .timeoutMs)
  · exact values .url
  · exact words (values .seed)
  · exact words (values .logEvery)
  · exact Option.some.inj (values .resultsDir)

/-! ## Reading a value -/

theorem readStatus_eq_ok_iff {n : UInt16} :
    readStatus setting text = .ok n ↔ Text.IsInteger text.toList n.toNat := by
  have small := n.toNat_lt
  constructor
  · intro read
    unfold readStatus at read
    split at read
    next => cases read
    next number signed =>
      split at read
      next range =>
        cases read
        obtain ⟨x, rfl⟩ := Int.eq_ofNat_of_zero_le range.1
        have word : (UInt16.ofNat x).toNat = x := UInt16.toNat_ofNat_of_lt' (by omega)
        rw [Int.toNat_natCast, word]
        exact (Text.readSigned_eq_ok_iff.mp signed).1
      next => cases read
  · intro integer
    have signed : Text.readSigned 0x7FFFFFFFFFFFFFFF text.toList = .ok (n.toNat : Int) :=
      Text.readSigned_eq_ok_iff.mpr ⟨integer, by omega, by omega⟩
    have range : (0 : Int) ≤ n.toNat ∧ (n.toNat : Int) < UInt16.size :=
      ⟨Int.natCast_nonneg _, Int.ofNat_lt.mpr small⟩
    rw [readStatus, signed]
    simp only [if_pos range, Int.toNat_natCast, UInt16.ofNat_toNat]

theorem readStatus_toString (setting : Setting) (n : UInt16) :
    readStatus setting (toString n.toNat) = .ok n := by
  rw [readStatus_eq_ok_iff, Decimal.toList_toString]
  exact .natural (Text.isNumeral_ofNat n.toNat)

theorem isNumeral_of_readWord {n : UInt64} (read : readWord setting text = .ok n) :
    Text.IsNumeral text.toList n.toNat := by
  rw [← Text.readWord_eq_ok_iff]
  unfold readWord at read
  split at read
  next number unsigned =>
    cases read
    exact unsigned
  next => cases read

theorem readPath_of_ne (setting : Setting) (some : text ≠ "") :
    readPath setting text = .ok text := by
  rw [readPath, if_neg]
  rwa [String.isEmpty_iff]

/-- A setting takes each of its values, and keeps its hands off the others. -/
theorem Arguments.exists_assign (paths : a.HasPaths) (has : a.value? setting = some text)
    (b : Arguments) : ∃ c, b.assign setting text = .ok c ∧ c.noExport = b.noExport ∧
      ∀ other, c.value? other = if other = setting then some text else b.value? other := by
  unfold assign
  cases setting with
  | config =>
      have some : text ≠ "" := by
        rintro rfl
        exact paths.1 has
      rw [readPath_of_ne _ some]
      exact ⟨_, rfl, rfl, fun other => by cases other <;> rfl⟩
  | mode =>
      cases has
      rw [readMode, Mode.ofWord?_word]
      exact ⟨_, rfl, rfl, fun other => by cases other <;> rfl⟩
  | url => exact ⟨_, rfl, rfl, fun other => by cases other <;> rfl⟩
  | mockStatus =>
      cases has
      rw [readStatus_toString]
      exact ⟨_, rfl, rfl, fun other => by cases other <;> rfl⟩
  | mockDelayMs =>
      cases has
      rw [readWord_toString]
      exact ⟨_, rfl, rfl, fun other => by cases other <;> rfl⟩
  | resultsDir =>
      cases has
      rw [readPath_of_ne _ paths.2]
      exact ⟨_, rfl, rfl, fun other => by cases other <;> rfl⟩
  | _ =>
      obtain ⟨n, -, rfl⟩ := Option.map_eq_some_iff.mp has
      rw [readWord_toString]
      exact ⟨_, rfl, rfl, fun other => by cases other <;> rfl⟩

theorem Arguments.noExport_assign (assigned : b.assign setting text = .ok c) :
    c.noExport = b.noExport := by
  unfold assign at assigned
  cases setting with
  | url =>
      cases assigned
      rfl
  | _ =>
      obtain ⟨_, -, rfl⟩ := Wire.exists_of_map_eq_ok assigned
      rfl

/-- A number is taken only by a setting that can have it. -/
theorem Arguments.range_of_assign (assigned : b.assign setting text = .ok c)
    (limited : setting.limit? = some limit) (integer : Text.IsInteger text.toList x) :
    0 ≤ x ∧ x < limit := by
  unfold assign at assigned
  cases setting with
  | config | mode | url | resultsDir => cases limited
  | mockStatus =>
      cases limited
      obtain ⟨n, read, -⟩ := Wire.exists_of_map_eq_ok assigned
      rw [integer.unique (readStatus_eq_ok_iff.mp read)]
      exact ⟨Int.natCast_nonneg _, Int.ofNat_lt.mpr n.toNat_lt⟩
  | _ =>
      cases limited
      obtain ⟨n, read, -⟩ := Wire.exists_of_map_eq_ok assigned
      rw [integer.unique (.natural (isNumeral_of_readWord read))]
      exact ⟨Int.natCast_nonneg _, Int.ofNat_lt.mpr n.toNat_lt⟩

/-! ## Refusing a value -/

/-- The setting that a fault is about. -/
def Fault.setting? : Fault → Option Setting
  | .missingValue setting => some setting
  | .emptyValue setting => some setting
  | .unknownMode _ => some .mode
  | .badNumber setting _ _ => some setting
  | .outOfRange setting _ => some setting
  | .repeatedSetting setting => some setting
  | .helpWanted | .unknownArgument _ | .repeatedSwitch _ | .needlessValue _ => none

theorem exitCode_of_setting? {fault : Fault} (about : fault.setting? = some setting) :
    fault.exitCode = 2 := by
  cases fault with
  | helpWanted => cases about
  | _ => rfl

theorem setting?_of_readWord {fault : Fault} (refused : readWord setting text = .error fault) :
    fault.setting? = some setting := by
  unfold readWord at refused
  split at refused
  next => cases refused
  next =>
    cases refused
    rfl

theorem setting?_of_readPath {fault : Fault} (refused : readPath setting text = .error fault) :
    fault.setting? = some setting := by
  unfold readPath at refused
  split at refused
  next =>
    cases refused
    rfl
  next => cases refused

theorem setting?_of_readStatus {fault : Fault}
    (refused : readStatus setting text = .error fault) : fault.setting? = some setting := by
  unfold readStatus at refused
  split at refused
  next =>
    cases refused
    rfl
  next =>
    split at refused
    next => cases refused
    next =>
      cases refused
      rfl

theorem setting?_of_readMode {fault : Fault} (refused : readMode text = .error fault) :
    fault.setting? = some .mode := by
  unfold readMode at refused
  split at refused
  next => cases refused
  next =>
    cases refused
    rfl

/-- A value is refused with a fault that names its setting. -/
theorem Arguments.setting?_of_assign {fault : Fault}
    (refused : b.assign setting text = .error fault) : fault.setting? = some setting := by
  unfold assign at refused
  cases setting with
  | url => cases refused
  | mode => exact setting?_of_readMode (Wire.eq_error_of_map refused)
  | config | resultsDir => exact setting?_of_readPath (Wire.eq_error_of_map refused)
  | mockStatus => exact setting?_of_readStatus (Wire.eq_error_of_map refused)
  | _ => exact setting?_of_readWord (Wire.eq_error_of_map refused)

end CommandLine

end ReservationLoad

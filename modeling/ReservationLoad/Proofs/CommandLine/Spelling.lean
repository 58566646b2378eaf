import Mathlib.Data.List.Nodup
import ReservationLoad.Proofs.CommandLine.Values

/-!
# Spelling arguments

Every value of every setting can be told on the command line.  A spelling of
arguments gives each of its options once, in whatever order and with the value
behind an equals sign or in an argument of its own; options with their default
value may be left out.  Whatever the spelling, the arguments are read back from
it.  An option that comes twice and a number that its setting cannot have are
refused: neither does one of two values win, nor does a number wrap around.
-/

namespace ReservationLoad.CommandLine

variable {a : Arguments} {setting : Setting} {text : String}

/-! ## Looking at an option -/

/-- The setting that an option gives; none is for the switch. -/
def Item.setting? (item : Item) : Option Setting := item.gives?.map Prod.fst

namespace Reading

variable {r s : Reading} {item : Item} {items : List Item} {fault : Fault}

/-- Has the setting been given?  Has the switch been turned on? -/
def Told (r : Reading) : Option Setting → Prop
  | some setting => setting ∈ r.given
  | none => r.arguments.noExport = true

/-- Nothing has been told before the first argument. -/
theorem not_told_start (key : Option Setting) : ¬ ({} : Reading).Told key := by
  intro told
  cases key <;> cases told

theorem setting?_of_accept (refused : r.accept setting text = .error fault) :
    fault.setting? = some setting := by
  unfold accept at refused
  split at refused
  next =>
    cases refused
    rfl
  next => exact Arguments.setting?_of_assign (Wire.eq_error_of_map refused)

/-- An option is good for once. -/
theorem told_of_heed (heeded : r.heed item = .ok s) :
    ¬ r.Told item.setting? ∧ ∀ key, s.Told key ↔ key = item.setting? ∨ r.Told key := by
  unfold heed at heeded
  unfold Item.setting?
  split at heeded
  next setting value given =>
    obtain ⟨fresh, arguments, assigned, rfl⟩ := accept_eq_ok heeded
    rw [given]
    refine ⟨fresh, fun key => ?_⟩
    cases key with
    | none => simp [Told, Arguments.noExport_assign assigned]
    | some other => simp [Told]
  next given =>
    obtain ⟨off, rfl⟩ := turnOn_eq_ok heeded
    rw [given]
    refine ⟨by simp [Told, off], fun key => ?_⟩
    cases key <;> simp [Told]

theorem told_of_foldlM (heeded : items.foldlM heed r = .ok s) :
    (items.map Item.setting?).Nodup ∧ (∀ key ∈ items.map Item.setting?, ¬ r.Told key) ∧
      ∀ key, s.Told key ↔ key ∈ items.map Item.setting? ∨ r.Told key := by
  induction items generalizing r with
  | nil =>
      cases heeded
      simp
  | cons item items ih =>
      rw [List.foldlM_cons] at heeded
      obtain ⟨t, first, heeded⟩ := Wire.exists_of_bind_eq_ok heeded
      obtain ⟨fresh, told⟩ := told_of_heed first
      obtain ⟨once, apart, later⟩ := ih heeded
      rw [List.map_cons]
      refine ⟨List.nodup_cons.mpr ⟨fun again => ?_, once⟩, ?_, fun key => ?_⟩
      · exact apart _ again ((told _).mpr (.inl rfl))
      · refine List.forall_mem_cons.mpr ⟨fresh, fun key inside earlier => ?_⟩
        exact apart key inside ((told key).mpr (.inr earlier))
      · rw [later, told, List.mem_cons, or_left_comm, or_assoc]

/-- Options are refused by a fault of usage. -/
theorem exitCode_of_foldlM (refused : items.foldlM heed r = .error fault) :
    fault.exitCode = 2 := by
  induction items generalizing r with
  | nil => cases refused
  | cons item items ih =>
      rw [List.foldlM_cons] at refused
      cases heeded : r.heed item with
      | ok s =>
          rw [heeded] at refused
          exact ih refused
      | error cause =>
          rw [heeded] at refused
          cases refused
          unfold heed at heeded
          split at heeded
          next => exact exitCode_of_setting? (setting?_of_accept heeded)
          next =>
            simp only [turnOn] at heeded
            split at heeded <;> cases heeded
            rfl

/-- An option with a value of the arguments is good, unless it was given
before. -/
theorem exists_heed (paths : a.HasPaths) (fresh : ¬ r.Told item.setting?)
    (right : ∀ given ∈ item.gives?, a.value? given.1 = some given.2) :
    ∃ s, r.heed item = .ok s ∧ ∀ setting, s.arguments.value? setting =
      if item.setting? = some setting then a.value? setting else r.arguments.value? setting := by
  unfold Item.setting? at fresh ⊢
  unfold heed
  cases gives : item.gives? with
  | none =>
      rw [gives] at fresh
      have off : ¬ r.arguments.noExport = true := fresh
      simp only [turnOn, if_neg off]
      exact ⟨_, rfl, fun setting => by cases setting <;> rfl⟩
  | some given =>
      rw [gives] at fresh
      have notGiven : ¬ r.given.contains given.1 = true :=
        fun inside => fresh (List.contains_iff_mem.mp inside)
      obtain ⟨c, assigned, -, values⟩ :=
        Arguments.exists_assign paths (right given gives) r.arguments
      simp only [accept, if_neg notGiven, assigned]
      refine ⟨_, rfl, fun setting => (values setting).trans ?_⟩
      rw [Option.map_some]
      by_cases same : setting = given.1
      · rw [if_pos same, if_pos (congrArg some same.symm), same, right given gives]
      · rw [if_neg same, if_neg fun same' => same (Option.some.inj same').symm]

theorem exists_foldlM (paths : a.HasPaths) (once : (items.map Item.setting?).Nodup)
    (fresh : ∀ key ∈ items.map Item.setting?, ¬ r.Told key)
    (right : ∀ item ∈ items, ∀ given ∈ item.gives?, a.value? given.1 = some given.2) :
    ∃ s, items.foldlM heed r = .ok s ∧ ∀ setting, s.arguments.value? setting =
      if some setting ∈ items.map Item.setting? then a.value? setting
      else r.arguments.value? setting := by
  induction items generalizing r with
  | nil => exact ⟨r, rfl, fun setting => by simp⟩
  | cons item items ih =>
      rw [List.map_cons] at once fresh
      rw [List.forall_mem_cons] at fresh right
      obtain ⟨other, once⟩ := List.nodup_cons.mp once
      obtain ⟨s, heeded, values⟩ := exists_heed paths fresh.1 right.1
      have apart : ∀ key ∈ items.map Item.setting?, ¬ s.Told key := by
        intro key inside told
        rcases ((told_of_heed heeded).2 key).mp told with rfl | earlier
        · exact other inside
        · exact fresh.2 key inside earlier
      obtain ⟨t, rest, values'⟩ := ih once apart right.2
      refine ⟨t, ?_, fun setting => ?_⟩
      · rw [List.foldlM_cons, heeded]
        exact rest
      · rw [values', values, List.map_cons]
        by_cases here : item.setting? = some setting
        · simp [here]
        · simp [here, Ne.symm here]

/-- Of options that are good by themselves, one that was given before is refused. -/
theorem foldlM_eq_error (paths : a.HasPaths) (once : (items.map Item.setting?).Nodup)
    (fresh : ∀ key ∈ items.map Item.setting?, key ≠ some setting → ¬ r.Told key)
    (right : ∀ item ∈ items, ∀ given ∈ item.gives?, a.value? given.1 = some given.2)
    (told : setting ∈ r.given) (again : some setting ∈ items.map Item.setting?) :
    items.foldlM heed r = .error (.repeatedSetting setting) := by
  induction items generalizing r with
  | nil => cases again
  | cons item items ih =>
      rw [List.map_cons] at once fresh again
      rw [List.forall_mem_cons] at fresh right
      obtain ⟨other, once⟩ := List.nodup_cons.mp once
      rw [List.foldlM_cons]
      by_cases here : item.setting? = some setting
      · obtain ⟨given, gives, rfl⟩ := Option.map_eq_some_iff.mp here
        have refused : r.heed item = .error (.repeatedSetting given.1) := by
          unfold heed
          rw [gives]
          exact if_pos (List.contains_iff_mem.mpr told)
        rw [refused]
        rfl
      · obtain ⟨s, heeded, -⟩ := exists_heed paths (fresh.1 here) right.1
        have toldLater := (told_of_heed heeded).2
        rw [heeded]
        refine ih once ?_ right.2 ((toldLater (some setting)).mpr (.inr told)) ?_
        · intro key inside apart told
          rcases (toldLater key).mp told with rfl | earlier
          · exact other inside
          · exact fresh.2 key inside apart earlier
        · exact (List.mem_cons.mp again).resolve_left (Ne.symm here)

end Reading

/-! ## Spellings -/

/-- The options spell the arguments, in the order in which they stand. -/
structure Spells (items : List Item) (a : Arguments) : Prop where
  once : (items.map Item.setting?).Nodup
  value : ∀ item ∈ items, ∀ given ∈ item.gives?, a.value? given.1 = some given.2
  /-- What is not told has its default value. -/
  absent : ∀ setting, some setting ∉ items.map Item.setting? →
    a.value? setting = ({} : Arguments).value? setting
  switch : none ∈ items.map Item.setting? ↔ a.noExport = true

/-- The option gives a setting a number that is none of its own. -/
def Item.OutOfRange (item : Item) : Prop :=
  ∃ setting text limit x, item.gives? = some (setting, text) ∧ setting.limit? = some limit ∧
    Text.IsInteger text.toList x ∧ ¬ (0 ≤ x ∧ x < (limit : Int))

namespace Spells

variable {items others : List Item}

/-- The order of the options does not matter. -/
theorem perm (spells : Spells items a) (order : items.Perm others) : Spells others a := by
  have keys := order.map Item.setting?
  refine ⟨keys.nodup_iff.mp spells.once, fun item inside => ?_, fun setting missing => ?_, ?_⟩
  · exact spells.value item (order.mem_iff.mpr inside)
  · exact spells.absent setting fun inside => missing (keys.mem_iff.mp inside)
  · rw [← keys.mem_iff]
    exact spells.switch

theorem read_eq_ok (spells : Spells items a) (paths : a.HasPaths) :
    read (items.flatMap Item.arguments) = .ok a := by
  obtain ⟨s, heeded, values⟩ := Reading.exists_foldlM paths spells.once
    (fun key _ => Reading.not_told_start key) spells.value
  have told : s.Told none ↔ a.noExport = true := by
    rw [(Reading.told_of_foldlM heeded).2.2, ← spells.switch]
    exact or_iff_left Bool.false_ne_true
  have same : s.arguments = a := by
    refine Arguments.eq_of_value? (fun setting => ?_) (Bool.eq_iff_iff.mpr told)
    rw [values]
    split
    next => rfl
    next missing => exact (spells.absent setting missing).symm
  rw [read_items, heeded, ← same]
  rfl

end Spells

/-- A spelling of the arguments that leaves nothing out. -/
def Arguments.items (a : Arguments) : List Item :=
  (Setting.all.filterMap fun setting => (a.value? setting).map (Item.attached setting)) ++
    if a.noExport then [.noExport] else []

theorem Setting.mem_all (setting : Setting) : setting ∈ all := by
  cases setting <;> decide

theorem Arguments.map_setting?_items (a : Arguments) : a.items.map Item.setting? =
    (Setting.all.filter fun setting => (a.value? setting).isSome).map some ++
      if a.noExport then [none] else [] := by
  have valued : ∀ settings : List Setting,
      (settings.filterMap fun setting =>
        (a.value? setting).map (Item.attached setting)).map Item.setting? =
      (settings.filter fun setting => (a.value? setting).isSome).map some := by
    intro settings
    induction settings with
    | nil => rfl
    | cons setting settings ih =>
        cases has : a.value? setting with
        | none =>
            simp only [List.filterMap_cons, List.filter_cons, has, Option.map_none, ih]
            rfl
        | some text =>
            simp only [List.filterMap_cons, List.filter_cons, has, Option.map_some,
              List.map_cons, ih]
            rfl
  rw [items, List.map_append, valued]
  cases a.noExport <;> rfl

theorem Arguments.spells_items (a : Arguments) : Spells a.items a := by
  refine ⟨?_, fun item inside given gives => ?_, fun setting missing => ?_, ?_⟩
  · rw [a.map_setting?_items]
    have once : Setting.all.Nodup := by decide
    have told := (once.filter fun setting => (a.value? setting).isSome).map
      fun _ _ => Option.some.inj
    cases a.noExport with
    | false => simpa using told
    | true =>
        refine List.nodup_append'.mpr ⟨told, List.nodup_singleton none, ?_⟩
        simp
  · rcases List.mem_append.mp inside with valued | switch
    · obtain ⟨setting, -, same⟩ := List.mem_filterMap.mp valued
      obtain ⟨text, has, rfl⟩ := Option.map_eq_some_iff.mp same
      cases gives
      exact has
    · split at switch
      next =>
        cases List.mem_singleton.mp switch
        cases gives
      next => cases switch
  · rw [a.map_setting?_items] at missing
    have valueless : ¬ (a.value? setting).isSome = true := fun valued => missing <|
      List.mem_append_left _ <| List.mem_map_of_mem <|
        List.mem_filter.mpr ⟨setting.mem_all, valued⟩
    have none := Option.not_isSome_iff_eq_none.mp valueless
    rw [none]
    cases setting with
    | mode | mockStatus | mockDelayMs | resultsDir => cases none
    | _ => rfl
  · rw [a.map_setting?_items]
    cases a.noExport <;> simp

/-! ## Refusals -/

namespace Reading

variable {r s : Reading} {item : Item} {items front behind : List Item} {fault : Fault}

theorem inRange_of_heed (heeded : r.heed item = .ok s) : ¬ item.OutOfRange := by
  rintro ⟨setting, text, limit, x, gives, limited, integer, outside⟩
  unfold heed at heeded
  rw [gives] at heeded
  obtain ⟨-, arguments, assigned, -⟩ := accept_eq_ok heeded
  exact outside (Arguments.range_of_assign assigned limited integer)

theorem inRange_of_foldlM (heeded : items.foldlM heed r = .ok s) :
    ∀ item ∈ items, ¬ item.OutOfRange := by
  induction items generalizing r with
  | nil => exact List.forall_mem_nil _
  | cons item items ih =>
      rw [List.foldlM_cons] at heeded
      obtain ⟨t, first, heeded⟩ := Wire.exists_of_bind_eq_ok heeded
      exact List.forall_mem_cons.mpr ⟨inRange_of_heed first, ih heeded⟩

end Reading

/-- Options of which one comes twice, or has a number out of range, are no usage. -/
theorem read_eq_error {items : List Item}
    (wrong : ¬ (items.map Item.setting?).Nodup ∨ ∃ item ∈ items, item.OutOfRange) :
    ∃ fault, read (items.flatMap Item.arguments) = .error fault ∧ fault.exitCode = 2 := by
  rw [read_items]
  cases heeded : items.foldlM Reading.heed {} with
  | ok s =>
      rcases wrong with twice | ⟨item, inside, outside⟩
      · exact absurd (Reading.told_of_foldlM heeded).1 twice
      · exact absurd outside (Reading.inRange_of_foldlM heeded item inside)
  | error fault => exact ⟨fault, rfl, Reading.exitCode_of_foldlM heeded⟩

/-- An option too many is what the fault is about. -/
theorem Spells.read_insert {front behind : List Item} {item : Item}
    (spells : Spells (front ++ behind) a) (paths : a.HasPaths)
    (about : item.setting? = some setting)
    (wrong : some setting ∈ (front ++ behind).map Item.setting? ∨ item.OutOfRange) :
    ∃ fault, read ((front ++ item :: behind).flatMap Item.arguments) = .error fault ∧
      fault.setting? = some setting := by
  have once := spells.once
  rw [List.map_append] at once wrong
  obtain ⟨onceFront, onceBehind, apart⟩ := List.nodup_append'.mp once
  obtain ⟨s, heededFront, -⟩ := Reading.exists_foldlM paths onceFront
    (fun key _ => Reading.not_told_start key)
    fun item inside => spells.value item (List.mem_append_left _ inside)
  have toldFront := (Reading.told_of_foldlM heededFront).2.2
  rw [read_items, List.foldlM_append, heededFront, Wire.ok_bind, List.foldlM_cons]
  cases heeded : s.heed item with
  | error fault =>
      refine ⟨fault, rfl, ?_⟩
      obtain ⟨given, gives, rfl⟩ := Option.map_eq_some_iff.mp about
      unfold Reading.heed at heeded
      rw [gives] at heeded
      exact Reading.setting?_of_accept heeded
  | ok t =>
      obtain ⟨notFront, told⟩ := Reading.told_of_heed heeded
      rw [about] at notFront told
      have again : some setting ∈ behind.map Item.setting? := by
        rcases wrong with inside | outside
        · refine (List.mem_append.mp inside).resolve_left fun inFront => notFront ?_
          exact (toldFront _).mpr (.inl inFront)
        · exact absurd outside (Reading.inRange_of_heed heeded)
      have freshBehind : ∀ key ∈ behind.map Item.setting?, key ≠ some setting → ¬ t.Told key := by
        intro key inside other toldKey
        rcases (told key).mp toldKey with same | earlier
        · exact other same
        · rcases (toldFront key).mp earlier with inFront | atStart
          · exact apart inFront inside
          · cases key <;> cases atStart
      rw [Wire.ok_bind, Reading.foldlM_eq_error paths onceBehind freshBehind
        (fun item inside => spells.value item (List.mem_append_right _ inside))
        ((told (some setting)).mpr (.inl rfl)) again]
      exact ⟨_, rfl, rfl⟩

/-- The command line reads back all arguments, whose paths may not be empty, from
each of their spellings, in any order.  Options are refused as wrong usage if one
of them comes twice or has a number that its setting cannot have; if just one
option is too many in a spelling, then its setting is reported. -/
theorem spellings_read_back :
    (∀ a : Arguments, (∃ items, Spells items a) ∧
      (a.HasPaths → ∀ items, Spells items a → ∀ others, items.Perm others →
        read (others.flatMap Item.arguments) = .ok a)) ∧
    (∀ items : List Item,
      (¬ (items.map Item.setting?).Nodup ∨ ∃ item ∈ items, item.OutOfRange) →
        ∃ fault, read (items.flatMap Item.arguments) = .error fault ∧ fault.exitCode = 2) ∧
    ∀ (a : Arguments) (front behind : List Item) (item : Item) (setting : Setting),
      a.HasPaths → Spells (front ++ behind) a → item.setting? = some setting →
      (some setting ∈ (front ++ behind).map Item.setting? ∨ item.OutOfRange) →
        ∃ fault, read ((front ++ item :: behind).flatMap Item.arguments) = .error fault ∧
          fault.setting? = some setting ∧ fault.exitCode = 2 := by
  refine ⟨fun a => ⟨⟨_, a.spells_items⟩, ?_⟩, fun _ => read_eq_error, ?_⟩
  · intro paths items spells others order
    exact (spells.perm order).read_eq_ok paths
  · intro a front behind item setting paths spells about wrong
    obtain ⟨fault, refused, same⟩ := spells.read_insert paths about wrong
    exact ⟨fault, refused, same, exitCode_of_setting? same⟩

/-- Values with an equals sign, a blank or a hyphen in front, the greatest numbers,
a value told though it is the default, and what the numbers may not be. -/
theorem spelling_reads_back_at_the_limits :
    read ["--url", "http://a b/?x=1=2", "--no-export", "--seed=18446744073709551615",
        "--config=-x.toml", "--mock-status", "65535", "--mode=http"] =
      .ok { url := some "http://a b/?x=1=2", noExport := true, seed := some 18446744073709551615,
            config := some "-x.toml", mockStatus := 65535 } ∧
    (∃ fault, read ["--mock-status=65536", "--seed", "1"] = .error fault ∧
      fault.exitCode = 2) ∧
    (∃ fault, read ["--seed=1", "--seed=1"] = .error fault ∧ fault.exitCode = 2) ∧
    ∃ fault, read ["--no-export", "--mock-status=-1", "--workers", "2"] = .error fault ∧
      fault.setting? = some .mockStatus ∧ fault.exitCode = 2 := by
  let a : Arguments :=
    { url := some "http://a b/?x=1=2", noExport := true, seed := some 18446744073709551615,
      config := some "-x.toml", mockStatus := 65535 }
  let items : List Item :=
    [.separate .url "http://a b/?x=1=2" (by intro _ same; cases same), .noExport,
      .attached .seed "18446744073709551615", .attached .config "-x.toml",
      .separate .mockStatus "65535" (by intro _ same; cases same), .attached .mode "http"]
  have paths : a.HasPaths := ⟨by decide, by decide⟩
  have spells : Spells items a := by
    refine ⟨by decide, by decide +kernel, fun setting missing => ?_, by decide⟩
    cases setting with
    | workers | totalRequests | timeoutMs | logEvery | mockDelayMs | resultsDir => rfl
    | _ => exact absurd (by decide) missing
  have few : Spells [.noExport, .separate .workers "2" (by intro _ same; cases same)]
      { noExport := true, workers := some 2 } := by
    refine ⟨by decide, by decide +kernel, fun setting missing => ?_, by decide⟩
    cases setting with
    | workers => exact absurd (by decide) missing
    | _ => rfl
  have large : Text.IsInteger "65536".toList 65536 := .natural (Text.isNumeral_ofNat 65536)
  have negative : Text.IsInteger ('-' :: ['1']) (-1) :=
    .negative (by decide) (List.forall_mem_singleton.mpr (by decide))
  obtain ⟨good, bad, named⟩ := spellings_read_back
  refine ⟨(good a).2 paths items spells items (.refl _), ?_, ?_, ?_⟩
  · refine bad [.attached .mockStatus "65536",
      .separate .seed "1" (by intro _ same; cases same)] (.inr ⟨_, List.mem_cons_self, ?_⟩)
    exact ⟨.mockStatus, "65536", UInt16.size, 65536, rfl, rfl, large, by decide⟩
  · exact bad [.attached .seed "1", .attached .seed "1"] (.inl (by decide))
  · refine named _ [.noExport] [.separate .workers "2" (by intro _ same; cases same)]
      (.attached .mockStatus "-1") .mockStatus ⟨by decide, by decide⟩ few rfl (.inr ?_)
    exact ⟨.mockStatus, "-1", UInt16.size, -1, rfl, rfl, negative, by decide⟩

end ReservationLoad.CommandLine

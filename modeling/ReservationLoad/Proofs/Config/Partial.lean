import ReservationLoad.Config.Basic
import ReservationLoad.Proofs.Wire.Slots

/-!
# Partial configurations

A configuration document may leave out any table and any key.  What it says is a
partial configuration, in whatever format it is written, and reading it fills in
the built-in settings: those of a whole table where the table is missing, and
those of a single key where the key is.  Both ways lead to the same settings.
-/

namespace ReservationLoad

open Wire

/-- What a document can give to a key. -/
inductive Setting
  | text (value : String)
  | whole (value : UInt64)

namespace PartialConfig

structure Target where
  url : Option String := none
  timeoutMs : Option UInt64 := none

structure Load where
  workers : Option UInt64 := none
  totalRequests : Option UInt64 := none
  logEvery : Option UInt64 := none

structure Scenario where
  seed : Option UInt64 := none

/-- The keys of a table, each with what it is given if anything. -/
abbrev Settings := List (String × Option Setting)

def Target.settings (t : Target) : Settings :=
  [("url", t.url.map .text), ("timeout_ms", t.timeoutMs.map .whole)]

def Load.settings (l : Load) : Settings :=
  [("workers", l.workers.map .whole), ("total_requests", l.totalRequests.map .whole),
    ("log_every", l.logEvery.map .whole)]

def Scenario.settings (s : Scenario) : Settings := [("seed", s.seed.map .whole)]

end PartialConfig

open PartialConfig in
/-- Settings that are given, in tables that are there. -/
structure PartialConfig where
  target : Option Target := none
  load : Option Load := none
  scenario : Option Scenario := none

namespace PartialConfig

variable (p : PartialConfig)

/-- The tables with their keys. -/
def tables : List (String × Option Settings) :=
  [("target", p.target.map Target.settings), ("load", p.load.map Load.settings),
    ("scenario", p.scenario.map Scenario.settings)]

/-- The given settings, and the built-in ones where nothing is given. -/
def fill : Config where
  target :=
    { url := (p.target.bind Target.url).getD Config.default.target.url
      timeoutMs := (p.target.bind Target.timeoutMs).getD Config.default.target.timeoutMs }
  load :=
    { workers := (p.load.bind Load.workers).getD Config.default.load.workers
      totalRequests := (p.load.bind Load.totalRequests).getD Config.default.load.totalRequests
      logEvery := (p.load.bind Load.logEvery).getD Config.default.load.logEvery }
  scenario := { seed := p.scenario.bind Scenario.seed }

/-! ## The datum of a partial configuration -/

/-- A value that may be missing. -/
def datumOf {α : Type} (write : α → Datum) (given : Option α) : Datum :=
  (given.map write).getD .absent

def Target.datum (t : Target) : Datum :=
  .record [datumOf .text t.url, datumOf .natural t.timeoutMs]

def Load.datum (l : Load) : Datum :=
  .record [datumOf .natural l.workers, datumOf .natural l.totalRequests,
    datumOf .natural l.logEvery]

def Scenario.datum (s : Scenario) : Datum := .record [datumOf .natural s.seed]

def datum : Datum :=
  .record [datumOf Target.datum p.target, datumOf Load.datum p.load,
    datumOf Scenario.datum p.scenario]

/-- The built-in settings of a missing table are those of its keys. -/
theorem ofDatum?_datum : Document.ofDatum? p.datum = some p.fill := by
  have target : orDefault {} Document.ofDatum? (datumOf Target.datum p.target) =
      some p.fill.target := by
    rcases p with ⟨_ | ⟨_ | _, _ | _⟩, _, _⟩ <;> rfl
  have load : orDefault {} Document.ofDatum? (datumOf Load.datum p.load) = some p.fill.load := by
    rcases p with ⟨_, _ | ⟨_ | _, _ | _, _ | _⟩, _⟩ <;> rfl
  have scenario : orDefault {} Document.ofDatum? (datumOf Scenario.datum p.scenario) =
      some p.fill.scenario := by
    rcases p with ⟨_, _, _ | ⟨_ | _⟩⟩ <;> rfl
  change (orDefault {} Document.ofDatum? (datumOf Target.datum p.target) >>= fun target =>
    orDefault {} Document.ofDatum? (datumOf Load.datum p.load) >>= fun load =>
      orDefault {} Document.ofDatum? (datumOf Scenario.datum p.scenario) >>= fun scenario =>
        (pure ⟨target, load, scenario⟩ : Option Config)) = _
  rw [target, load, scenario]
  rfl

/-! ## Documents that state a partial configuration -/

section States

variable {ε ν : Type} (inner? : ν → Option (List (String × ν)))
  (shows : String → Option Setting → Option ν → Prop)

/-- A table that shows the settings under their keys, whatever else is in it. -/
def TableStates (settings : Settings) (table : ν) : Prop :=
  ∃ entries, inner? table = some entries ∧ ∀ ⦃key : String⦄ ⦃setting : Option Setting⦄,
    (key, setting) ∈ settings → ∃ found, Holds entries key found ∧ shows key setting found

/-- Entries that state a partial configuration, in whatever order and whatever
else is among them.  `inner?` tells the entries of a table, and `shows` how a
setting is written. -/
def States (p : PartialConfig) (entries : List (String × ν)) : Prop :=
  ∀ ⦃name : String⦄ ⦃settings : Option Settings⦄, (name, settings) ∈ p.tables →
    ∃ found, Holds entries name found ∧ Option.Rel (TableStates inner? shows) settings found

/-- A way of reading by which partial configurations are understood. -/
structure Understands (fit : Shape → ν → Except ε Datum) : Prop where
  record : ∀ {record : String} {members : Members} {table : ν} {entries : List (String × ν)}
    {values : List Datum}, members.names.Nodup → members.lenient = true →
      inner? table = some entries → MembersRead fit entries members values →
        fit (.record record members) table = .ok (.record values)
  url : ∀ {url : Option String} {found : Option ν}, shows "url" (url.map .text) found →
    Fits (fit .text) found (datumOf .text url)
  number : ∀ {key : String} {width : Width} {number : Option UInt64} {found : Option ν},
    key ≠ "seed" → width.limit = UInt64.size → shows key (number.map .whole) found →
      Fits (fit (.natural width)) found (datumOf .natural number)
  seed : ∀ {seed : Option UInt64} {found : Option ν}, shows "seed" (seed.map .whole) found →
    Fits (fit (.optional (.natural .word64))) found (datumOf .natural seed)

variable {inner? shows} {fit : Shape → ν → Except ε Datum}

namespace Understands

variable (understands : Understands inner? shows fit)

include understands

theorem target {t : Target} {table : ν} (states : TableStates inner? shows t.settings table) :
    fit (Document.shape TargetConfig) table = .ok t.datum := by
  obtain ⟨entries, inner, held⟩ := states
  obtain ⟨url, holdsUrl, showsUrl⟩ := held List.mem_cons_self
  obtain ⟨timeout, holdsTimeout, showsTimeout⟩ := held (List.mem_of_getElem? (i := 1) rfl)
  refine understands.record (by decide) rfl inner ⟨⟨url, holdsUrl, ?_⟩, ⟨timeout, holdsTimeout, ?_⟩,
    trivial⟩
  · exact understands.url showsUrl
  · exact understands.number (by decide) rfl showsTimeout

theorem load {l : Load} {table : ν} (states : TableStates inner? shows l.settings table) :
    fit (Document.shape LoadConfig) table = .ok l.datum := by
  obtain ⟨entries, inner, held⟩ := states
  obtain ⟨workers, holdsWorkers, showsWorkers⟩ := held List.mem_cons_self
  obtain ⟨total, holdsTotal, showsTotal⟩ := held (List.mem_of_getElem? (i := 1) rfl)
  obtain ⟨interval, holdsInterval, showsInterval⟩ := held (List.mem_of_getElem? (i := 2) rfl)
  refine understands.record (by decide) rfl inner ⟨⟨workers, holdsWorkers, ?_⟩,
    ⟨total, holdsTotal, ?_⟩, ⟨interval, holdsInterval, ?_⟩, trivial⟩
  · exact understands.number (by decide) rfl showsWorkers
  · exact understands.number (by decide) rfl showsTotal
  · exact understands.number (by decide) rfl showsInterval

theorem scenario {s : Scenario} {table : ν}
    (states : TableStates inner? shows s.settings table) :
    fit (Document.shape ScenarioConfig) table = .ok s.datum := by
  obtain ⟨entries, inner, held⟩ := states
  obtain ⟨seed, holdsSeed, showsSeed⟩ := held List.mem_cons_self
  exact understands.record (by decide) rfl inner
    ⟨⟨seed, holdsSeed, understands.seed showsSeed⟩, trivial⟩

omit understands in
/-- A table is read if it is there, and absent otherwise. -/
theorem fits_table {α : Type} {settings : α → Settings} {write : α → Datum} {shape : Shape}
    {given : Option α} {found : Option ν}
    (rel : Option.Rel (TableStates inner? shows) (given.map settings) found)
    (read : ∀ {part : α} {table : ν}, TableStates inner? shows (settings part) table →
      fit shape table = .ok (write part)) :
    Fits (fit shape) found (datumOf write given) := by
  cases given with
  | none =>
      cases rel
      exact ⟨none, .none, rfl⟩
  | some part =>
      cases rel with
      | some states => exact ⟨some (write part), .some (read states), rfl⟩

/-- Entries that state a partial configuration are read as its datum. -/
theorem config {p : PartialConfig} {document : ν} {entries : List (String × ν)}
    (inner : inner? document = some entries) (states : p.States inner? shows entries) :
    fit (Document.shape Config) document = .ok p.datum := by
  obtain ⟨target, holdsTarget, statesTarget⟩ := states List.mem_cons_self
  obtain ⟨load, holdsLoad, statesLoad⟩ := states (List.mem_of_getElem? (i := 1) rfl)
  obtain ⟨scenario, holdsScenario, statesScenario⟩ := states (List.mem_of_getElem? (i := 2) rfl)
  refine understands.record (by decide) rfl inner ⟨⟨target, holdsTarget, ?_⟩,
    ⟨load, holdsLoad, ?_⟩, ⟨scenario, holdsScenario, ?_⟩, trivial⟩
  · exact fits_table statesTarget understands.target
  · exact fits_table statesLoad understands.load
  · exact fits_table statesScenario understands.scenario

end Understands

end States

/-! ## Writing a partial configuration -/

section Written

variable {ν : Type} (table : List (String × ν) → ν) (write : Setting → ν)

def writtenTable (settings : Settings) : ν :=
  table (present (settings.map fun setting => (setting.1, setting.2.map write)))

/-- The tables that are there, in the order of the record. -/
def written (p : PartialConfig) : List (String × ν) :=
  present (p.tables.map fun part => (part.1, part.2.map (writtenTable table write)))

theorem distinct_tables (p : PartialConfig) : (p.tables.map Prod.fst).Nodup := by
  change ["target", "load", "scenario"].Nodup
  decide

theorem distinct_settings {p : PartialConfig} {name : String} {settings : Settings}
    (inside : (name, some settings) ∈ p.tables) : (settings.map Prod.fst).Nodup := by
  simp only [tables, List.mem_cons, List.not_mem_nil, or_false, Prod.mk.injEq] at inside
  rcases inside with ⟨-, given⟩ | ⟨-, given⟩ | ⟨-, given⟩
  all_goals
    obtain ⟨part, -, rfl⟩ := Option.map_eq_some_iff.mp given.symm
  · change ["url", "timeout_ms"].Nodup
    decide
  · change ["workers", "total_requests", "log_every"].Nodup
    decide
  · change ["seed"].Nodup
    decide

theorem holds_present_map {α : Type} {write : α → ν} {settings : List (String × Option α)}
    (distinct : (settings.map Prod.fst).Nodup) {key : String} {setting : Option α}
    (inside : (key, setting) ∈ settings) :
    Holds (present (settings.map fun setting => (setting.1, setting.2.map write))) key
      (setting.map write) := by
  apply holds_present
  · rw [List.map_map]
    exact distinct
  · exact List.mem_map.mpr ⟨_, inside, rfl⟩

variable {table write}

theorem states_written {inner? : ν → Option (List (String × ν))}
    {shows : String → Option Setting → Option ν → Prop}
    (inner : ∀ entries, inner? (table entries) = some entries)
    (shown : ∀ key setting, shows key setting (setting.map write)) (p : PartialConfig) :
    p.States inner? shows (p.written table write) := by
  intro name settings inside
  refine ⟨_, holds_present_map p.distinct_tables inside, ?_⟩
  cases settings with
  | none => exact .none
  | some settings =>
      refine .some ⟨_, inner _, ?_⟩
      intro key setting member
      exact ⟨_, holds_present_map (distinct_settings inside) member, shown key setting⟩

end Written

theorem fits_of_forall {ε ν α : Type} {fit : ν → Except ε Datum} {write : α → ν}
    {read : α → Datum} (fitted : ∀ value, fit (write value) = .ok (read value))
    (given : Option α) : Fits fit (given.map write) (datumOf read given) := by
  cases given with
  | none => exact ⟨none, .none, rfl⟩
  | some value => exact ⟨some (read value), .some (fitted value), rfl⟩

end PartialConfig

end ReservationLoad

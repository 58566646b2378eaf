import ReservationLoad.Proofs.Json.RoundTrip
import ReservationLoad.Proofs.Json.Unique
import ReservationLoad.Proofs.Results.Store
import ReservationLoad.Report.Collector

/-!
# Results on the wire

A saved result carries its run back: the text is one object, its settings read
as the settings and its report as the report.  Of the report this asks that its
figures are doubles which come back from their texts.  An infinity or a NaN does
not: it is written as null, and null is no number.
-/

namespace ReservationLoad

open Json Wire

/-! ## Settings -/

namespace TargetConfig

theorem faithful (t : TargetConfig) : Faithful t where
  conforms := ⟨by decide, trivial, t.timeoutMs.toNat_lt, trivial⟩
  rebuilt := rfl

end TargetConfig

namespace LoadConfig

theorem faithful (l : LoadConfig) : Faithful l where
  conforms :=
    ⟨by decide, l.workers.toNat_lt, l.totalRequests.toNat_lt, l.logEvery.toNat_lt, trivial⟩
  rebuilt := rfl

end LoadConfig

namespace ScenarioConfig

theorem faithful (s : ScenarioConfig) : Faithful s where
  conforms := by
    refine ⟨by decide, ?_, trivial⟩
    cases s.seed with
    | none => exact .inl rfl
    | some seed => exact .inr seed.toNat_lt
  rebuilt := by
    rcases s with ⟨_ | seed⟩ <;> rfl

end ScenarioConfig

namespace Config

theorem faithful (c : Config) : Faithful c where
  conforms :=
    ⟨by decide, c.target.faithful.conforms, c.load.faithful.conforms,
      c.scenario.faithful.conforms, trivial⟩
  rebuilt := by
    rcases c with ⟨target, load, _ | seed⟩ <;> rfl

end Config

/-! ## Figures -/

theorem Snapshot.faithful (s : Snapshot) : Faithful s where
  conforms :=
    ⟨by decide, s.success.toNat_lt, s.errors.toNat_lt, s.samples.toNat_lt, trivial⟩
  rebuilt := rfl

/-- The figures that are doubles. -/
def LatencySummary.figures (l : LatencySummary) : List Binary64 :=
  [l.least, l.greatest, l.mean, l.deviation, l.p50, l.p95, l.p99]

/-- The figures that are doubles, those of the latency among them. -/
def Report.figures (r : Report) : List Binary64 :=
  r.elapsedSeconds :: r.throughput :: (r.latency.map LatencySummary.figures).getD []

theorem LatencySummary.faithful {l : LatencySummary} (survive : ∀ x ∈ l.figures, Survives x) :
    Faithful l where
  conforms := by
    simp only [figures, List.forall_mem_cons] at survive
    obtain ⟨least, greatest, mean, deviation, p50, p95, p99, -⟩ := survive
    exact ⟨by decide, l.count.toNat_lt, least, greatest, mean, deviation, p50, p95, p99, trivial⟩
  rebuilt := rfl

theorem Report.faithful {r : Report} (survive : ∀ x ∈ r.figures, Survives x) : Faithful r where
  conforms := by
    simp only [figures, List.forall_mem_cons] at survive
    obtain ⟨elapsed, throughput, inner⟩ := survive
    refine ⟨by decide, elapsed, r.totalRequests.toNat_lt, r.success.toNat_lt, r.errors.toNat_lt,
      throughput, ?latency, trivial⟩
    case latency =>
      cases known : r.latency with
      | none => exact .inl rfl
      | some l =>
          rw [known] at inner
          exact .inr (LatencySummary.faithful inner).conforms
  rebuilt := by
    rcases r with ⟨_, _, _, _, _, _ | l⟩ <;> rfl

/-! ## Figures that are no numbers -/

/-- Where a value fits a record, the doubles among its members are finite. -/
theorem isFinite_of_fit_record {record : String} {members : Members}
    (distinct : members.names.Nodup) {values : List (String × Value)} {datum : Datum}
    (fitted : fitShape (.record record members) (.object values) = .ok datum) (i : Nat)
    {name : String} {defaulted : Bool} {x : Binary64}
    (found : (memberFits members)[i]? = some ⟨name, defaulted, fitShape .number⟩)
    (inside : values[i]? = some (name, .ofBinary64 x)) : x.isFinite = true := by
  obtain ⟨datum, fitted⟩ :=
    exists_fit_of_fitRecord distinct fitted found (List.mem_of_getElem? inside)
  exact isFinite_of_fit_number fitted

theorem LatencySummary.isFinite_of_fit (l : LatencySummary) {datum : Datum}
    (fitted : fitShape (Document.shape LatencySummary) (ofDocument l) = .ok datum) :
    ∀ x ∈ l.figures, x.isFinite = true := by
  have finite := isFinite_of_fit_record (by decide) fitted
  simp only [figures, List.forall_mem_cons]
  exact ⟨finite 1 rfl rfl, finite 2 rfl rfl, finite 3 rfl rfl, finite 4 rfl rfl, finite 5 rfl rfl,
    finite 6 rfl rfl, finite 7 rfl rfl, by simp⟩

theorem Report.isFinite_of_fit (r : Report) {datum : Datum}
    (fitted : fitShape (Document.shape Report) (ofDocument r) = .ok datum) :
    ∀ x ∈ r.figures, x.isFinite = true := by
  have finite := isFinite_of_fit_record (by decide) fitted
  simp only [figures, List.forall_mem_cons]
  refine ⟨finite 0 rfl rfl, finite 4 rfl rfl, ?_⟩
  rcases r with ⟨elapsed, total, success, errors, throughput, _ | l⟩
  · simp
  · obtain ⟨latency, inner⟩ :=
      exists_fit_of_fitRecord (by decide) fitted (i := 5) rfl (List.mem_of_getElem? (i := 5) rfl)
    exact l.isFinite_of_fit inner

/-! ## Results -/

/-- The compact text of a document stands for the document's value alone and
reads as the document, and so does every other text of that value. -/
structure RoundTrips {α : Type} [Document α] (document : α) : Prop where
  compact : ∀ value, IsText value (ofDocument document).compact ↔ value = ofDocument document
  readBack : readDocument α (ofDocument document).compact = .ok document
  anyText : ∀ text, IsText (ofDocument document) text → readDocument α text = .ok document

theorem roundTrips_of_faithful {α : Type} [Document α] {document : α}
    (faithful : Faithful document) : RoundTrips document where
  compact := (isText_compact_ofDocument document).iff_eq
  readBack := faithful.readDocument_eq (isText_compact_ofDocument document)
  anyText _ isText := faithful.readDocument_eq isText

namespace RunResult

/-- A saved result carries its run back: its text is one object, whose last two
members read as the settings and as the report, whatever their layout. -/
structure CarriesBack (r : RunResult) : Prop where
  saved : ∀ {call : Results.Call} {disk later : Files.Disk} {directory path : String},
    call.result = r → call.run directory disk = (.ok path, later) →
      later.read .free path = .ok r.text.toUTF8.toList
  object : ∀ value, IsText value r.text ↔ value = .object r.members
  config : ∀ text, IsText (ofDocument r.config) text → readDocument Config text = .ok r.config
  report : ∀ text, IsText (ofDocument r.report) text → readDocument Report text = .ok r.report
  latency : ∃ figures, ofDocument r.report = .object figures ∧
    (figures.lookup "latency" = some .null ↔ r.report.latency = none)
  /-- No other result that could be carried back has the same text. -/
  determined : ∀ s : RunResult, (∀ x ∈ s.report.figures, Survives x) → s.text = r.text → s = r

theorem isText_text (r : RunResult) : IsText (.object r.members) r.text :=
  isText_pretty ⟨trivial, trivial, trivial, wellFormed_ofDatum _ _, wellFormed_ofDatum _ _, trivial⟩

theorem isText_text_iff (r : RunResult) {value : Value} :
    IsText value r.text ↔ value = .object r.members :=
  r.isText_text.iff_eq value

/-- Documents with one value have one text, which reads as both of them. -/
theorem eq_of_ofDocument_eq {α : Type} [Document α] {one other : α} (faithful : Faithful one)
    (faithful' : Faithful other) (same : ofDocument one = ofDocument other) : one = other := by
  have reads := faithful.readDocument_eq (isText_compact_ofDocument one)
  rw [same] at reads
  exact Except.ok.inj
    (reads.symm.trans (faithful'.readDocument_eq (isText_compact_ofDocument other)))

theorem eq_of_text_eq {r s : RunResult} (survive : ∀ x ∈ r.report.figures, Survives x)
    (survive' : ∀ x ∈ s.report.figures, Survives x) (same : s.text = r.text) : s = r := by
  have listed := r.isText_text_iff.mp (same ▸ s.isText_text)
  simp only [members, Value.object.injEq, List.cons.injEq, Prod.mk.injEq, true_and,
    Value.text.injEq, and_true] at listed
  obtain ⟨timestamps, words, transports, configs, reports⟩ := listed
  have modes : s.mode = r.mode := by
    generalize s.mode = one at words ⊢
    generalize r.mode = other at words ⊢
    revert words
    cases one <;> cases other <;> decide
  have configs := eq_of_ofDocument_eq s.config.faithful r.config.faithful configs
  have reports := eq_of_ofDocument_eq (Report.faithful survive') (Report.faithful survive) reports
  cases r
  cases s
  simp only [RunResult.mk.injEq]
  exact ⟨timestamps, modes, transports, configs, reports⟩

theorem carriesBack {r : RunResult} (survive : ∀ x ∈ r.report.figures, Survives x) :
    r.CarriesBack where
  saved := by
    rintro call disk later directory path rfl saved
    exact Results.read_of_run saved
  object _ := r.isText_text_iff
  config _ isText := r.config.faithful.readDocument_eq isText
  report _ isText := (Report.faithful survive).readDocument_eq isText
  latency := by
    refine ⟨_, rfl, ?_⟩
    rcases r with ⟨_, _, _, _, _, _, _, _, _, _ | l⟩
    · exact ⟨fun _ => rfl, fun _ => rfl⟩
    · constructor
      · rintro ⟨⟩
      · rintro ⟨⟩
  determined _ survive' same := eq_of_text_eq survive survive' same

end RunResult

/-- Every result whose figures come back from their texts carries its run back,
and so do the settings, the counts and the figures by themselves.  A report with
an infinity or a NaN never reads back, in no layout: the figure is written as
null, which is refused where a number is wanted. -/
theorem results_carry_runs_back :
    (∀ r : RunResult, (∀ x ∈ r.report.figures, Survives x) → r.CarriesBack) ∧
      (∀ c : Config, RoundTrips c) ∧ (∀ s : Snapshot, RoundTrips s) ∧
      (∀ l : LatencySummary, (∀ x ∈ l.figures, Survives x) → RoundTrips l) ∧
      (∀ r : Report, (∀ x ∈ r.figures, Survives x) → RoundTrips r) ∧
      (∀ r : Report, (∃ x ∈ r.figures, x.isFinite = false) → ∀ text,
        IsText (ofDocument r) text → ∃ fault, readDocument Report text = .error fault) ∧
      (∀ x : Binary64, x.isFinite = false → Value.ofBinary64 x = .null) ∧
      ∀ text, IsText .null text →
        readDatum .number text = .error (.misfit (.wrongType .null "f64")) := by
  refine ⟨fun r => RunResult.carriesBack, fun c => roundTrips_of_faithful c.faithful,
    fun s => roundTrips_of_faithful s.faithful,
    fun l survive => roundTrips_of_faithful (LatencySummary.faithful survive),
    fun r survive => roundTrips_of_faithful (Report.faithful survive), ?_, ?_, ?_⟩
  · rintro r ⟨x, inside, infinite⟩ text isText
    rw [readDocument, isText.readDatum_eq]
    cases fitted : fitShape (Document.shape Report) (ofDocument r) with
    | error fault => exact ⟨fault, rfl⟩
    | ok datum =>
        have finite := r.isFinite_of_fit fitted x inside
        rw [infinite] at finite
        cases finite
  · intro x infinite
    rw [Value.ofBinary64, infinite]
    rfl
  · intro text isText
    rw [isText.readDatum_eq]
    rfl

/-- A run of one request that took a tenth of a millisecond, with the greatest of
all seeds; and a report of a run whose length is no number. -/
theorem results_carry_runs_back_after_a_tenth :
    Survives ⟨0x3FB999999999999A⟩ ∧
      RunResult.CarriesBack
        { timestamp := "2024-01-01T00:00:00Z", mode := .mock, transport := "\"mock\"",
          config := ⟨⟨"\\\n", 0⟩, ⟨1, 1, 18446744073709551615⟩, ⟨some 18446744073709551615⟩⟩,
          report :=
            ⟨⟨0x3FB999999999999A⟩, 1, 1, 0, ⟨0x3FB999999999999A⟩,
              some ⟨1, ⟨0x3FB999999999999A⟩, ⟨0x3FB999999999999A⟩, ⟨0x3FB999999999999A⟩, .zero,
                ⟨0x3FB999999999999A⟩, ⟨0x3FB999999999999A⟩, ⟨0x3FB999999999999A⟩⟩⟩ } ∧
      ∀ text, IsText (ofDocument (⟨⟨0x7FF8000000000000⟩, 0, 0, 0, .zero, none⟩ : Report)) text →
        ∃ fault, readDocument Report text = .error fault := by
  have tenth : Survives ⟨0x3FB999999999999A⟩ := .of_survives (by decide +kernel)
  have zero : Survives .zero := .of_survives (by decide +kernel)
  obtain ⟨carried, -, -, -, -, refused, -⟩ := results_carry_runs_back
  refine ⟨tenth, carried _ ?_, refused _ ⟨_, List.mem_cons_self, by decide⟩⟩
  simp only [Report.figures, LatencySummary.figures, Option.map_some, Option.getD_some,
    List.forall_mem_cons]
  exact ⟨tenth, tenth, tenth, tenth, tenth, zero, tenth, tenth, tenth, by simp⟩

end ReservationLoad

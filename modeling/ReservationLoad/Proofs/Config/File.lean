import ReservationLoad.Config.Layers
import ReservationLoad.Proofs.Toml.Members

/-!
# What a configuration file says

A configuration document may leave out any of its tables and any of their
keys.  What it says is a layer of settings.  Reading the document fills in the
built-in settings where the layer is silent and changes nothing else, so a
document that fits its shape is never refused afterwards.
-/

namespace ReservationLoad

open Wire

namespace Toml

def Node.text? : Node → Option String
  | .scalar (.text value) => some value
  | _ => none

def Node.natural? : Node → Option UInt64
  | .scalar (.whole value) => some (UInt64.ofNat value.toNat)
  | _ => none

variable {name : String} {defaulted : Bool} {found : Option Node} {value : Datum}

theorem orDefault_text (fallback : String)
    (takes : MemberFit.Takes ⟨name, defaulted, fitShape .text⟩ found value) :
    orDefault fallback Datum.text? value = some ((found.bind Node.text?).getD fallback) := by
  cases found with
  | none =>
      cases takes
      rfl
  | some node =>
      obtain ⟨text, fitted, rfl⟩ := exists_of_map_eq_ok takes
      unfold fitText at fitted
      split at fitted
      · cases fitted
        rfl
      · cases fitted

/-- A natural number is fitted by its value alone. -/
theorem natural?_of_fitNatural {width : Width} {node : Node}
    (fitted : fitNatural width node = .ok value) :
    ∃ number, value = .natural number ∧ node.natural? = some number := by
  unfold fitNatural at fitted
  split at fitted
  · split at fitted
    · cases fitted
      exact ⟨_, rfl, rfl⟩
    · cases fitted
  · cases fitted

theorem orDefault_natural {width : Width} (fallback : UInt64)
    (takes : MemberFit.Takes ⟨name, defaulted, fitShape (.natural width)⟩ found value) :
    orDefault fallback Datum.natural? value =
      some ((found.bind Node.natural?).getD fallback) := by
  cases found with
  | none =>
      cases takes
      rfl
  | some node =>
      obtain ⟨number, rfl, read⟩ := natural?_of_fitNatural takes
      rw [Option.bind_some, read]
      rfl

theorem optional?_natural {width : Width}
    (takes : MemberFit.Takes ⟨name, defaulted, fitShape (.optional (.natural width))⟩
      found value) :
    value.optional? Datum.natural? = some (found.bind Node.natural?) := by
  cases found with
  | none =>
      cases takes
      rfl
  | some node =>
      obtain ⟨number, rfl, read⟩ := natural?_of_fitNatural takes
      rw [Option.bind_some, read]
      rfl

/-- A table is read from the values of its members, and filled in as a whole
where it is missing. -/
theorem orDefault_record {α : Type} [Document α] {record : String} {members : Members}
    {fallback expected : α} (distinct : members.names.Nodup)
    (takes : MemberFit.Takes ⟨name, defaulted, fitShape (.record record members)⟩ found value)
    (missing : found = none → fallback = expected)
    (read : ∀ node values, found = some node →
      Taken (memberFits members) (node.member? members.names) values →
      Document.ofDatum? (.record values) = some expected) :
    orDefault fallback Document.ofDatum? value = some expected := by
  cases found with
  | none =>
      cases takes
      exact congrArg some (missing rfl)
  | some node =>
      obtain ⟨values, rfl, taken⟩ := taken_of_fitRecord distinct takes
      exact read node values rfl taken

end Toml

namespace Config

open Toml

/-- The keys of a document of a type. -/
def keysOf (α : Type) [Document α] : List String :=
  match Document.shape α with
  | .record _ members => members.names
  | _ => []

/-- What one layer says about the settings. -/
@[ext]
structure Layer where
  url : Option String
  number : Variable → Option UInt64

/-- The numeric settings of a configuration, of which only the seed may be
missing. -/
def number? (config : Config) : Variable → Option UInt64
  | .timeoutMs => some config.target.timeoutMs
  | .workers => some config.load.workers
  | .totalRequests => some config.load.totalRequests
  | .logEvery => some config.load.logEvery
  | .seed => config.scenario.seed

/-- What a document has under a key of one of its tables. -/
def node? (α : Type) [Document α] (document : Node) (table key : String) : Option Node :=
  (document.member? (keysOf Config) table).bind fun node => node.member? (keysOf α) key

/-- What a document has for a setting. -/
def Variable.node? (which : Variable) (document : Node) : Option Node :=
  match which with
  | timeoutMs => Config.node? TargetConfig document "target" "timeout_ms"
  | workers => Config.node? LoadConfig document "load" "workers"
  | totalRequests => Config.node? LoadConfig document "load" "total_requests"
  | logEvery => Config.node? LoadConfig document "load" "log_every"
  | seed => Config.node? ScenarioConfig document "scenario" "seed"

namespace Layer

def silent : Layer := ⟨none, fun _ => none⟩

/-- What `upper` says, and what `lower` says where `upper` is silent. -/
def above (upper lower : Layer) : Layer :=
  ⟨upper.url.or lower.url, fun which => (upper.number which).or (lower.number which)⟩

def ofConfig (config : Config) : Layer := ⟨some config.target.url, config.number?⟩

def ofDocument (document : Node) : Layer :=
  ⟨(node? TargetConfig document "target" "url").bind Node.text?,
    fun which => (which.node? document).bind Node.natural?⟩

/-- A configuration with what a layer says instead. -/
def onto (layer : Layer) (config : Config) : Config where
  target :=
    { url := layer.url.getD config.target.url
      timeoutMs := (layer.number .timeoutMs).getD config.target.timeoutMs }
  load :=
    { workers := (layer.number .workers).getD config.load.workers
      totalRequests := (layer.number .totalRequests).getD config.load.totalRequests
      logEvery := (layer.number .logEvery).getD config.load.logEvery }
  scenario := { seed := (layer.number .seed).or config.scenario.seed }

theorem ofConfig_onto (layer : Layer) (config : Config) :
    ofConfig (layer.onto config) = layer.above (ofConfig config) := by
  apply Layer.ext
  · exact Option.or_some.symm
  · funext which
    cases which with
    | timeoutMs => exact Option.or_some.symm
    | workers => exact Option.or_some.symm
    | totalRequests => exact Option.or_some.symm
    | logEvery => exact Option.or_some.symm
    | seed => rfl

def ofText (text : String) : Except FileFault Layer :=
  match Table.read text with
  | none => .error .malformed
  | some table =>
    match fitShape (Document.shape Config) (.inline table.entries) with
    | .error cause => .error (.misfit cause)
    | .ok _ => .ok (ofDocument (.inline table.entries))

def ofFile (readFile : FileReader) (path : String) : Except FileFault Layer :=
  match readFile path with
  | .error cause => .error (.unreadable cause)
  | .ok bytes =>
    match String.fromUTF8? ⟨bytes.toArray⟩ with
    | none => .error .notText
    | some text => ofText text

/-- What the file says that is given, if one is. -/
def ofGivenFile (readFile : FileReader) : Option String → Except Fault Layer
  | none => .ok silent
  | some path => (ofFile readFile path).mapError (.badFile path)

end Layer

variable {document : Node} {value : Datum}

theorem target_of_takes
    (takes : MemberFit.Takes ⟨"target", true, fitShape (Document.shape TargetConfig)⟩
      (document.member? (keysOf Config) "target") value) :
    orDefault {} Document.ofDatum? value =
      some ((Layer.ofDocument document).onto default).target := by
  simp only [Layer.onto, Layer.ofDocument, Variable.node?, node?]
  apply orDefault_record (by decide) takes
  · intro missing
    rw [missing]
    rfl
  · intro node values found taken
    obtain ⟨url, others, rfl, takesUrl, taken⟩ := taken.uncons
    obtain ⟨timeout, others, rfl, takesTimeout, taken⟩ := taken.uncons
    cases taken.eq_nil
    have urlRead := orDefault_text default.target.url takesUrl
    have timeoutRead := orDefault_natural default.target.timeoutMs takesTimeout
    rw [found]
    change (orDefault default.target.url Datum.text? url >>= fun url =>
      orDefault default.target.timeoutMs Datum.natural? timeout >>= fun timeoutMs =>
        pure (TargetConfig.mk url timeoutMs)) = _
    rw [urlRead, timeoutRead]
    rfl

theorem load_of_takes
    (takes : MemberFit.Takes ⟨"load", true, fitShape (Document.shape LoadConfig)⟩
      (document.member? (keysOf Config) "load") value) :
    orDefault {} Document.ofDatum? value =
      some ((Layer.ofDocument document).onto default).load := by
  simp only [Layer.onto, Layer.ofDocument, Variable.node?, node?]
  apply orDefault_record (by decide) takes
  · intro missing
    rw [missing]
    rfl
  · intro node values found taken
    obtain ⟨workers, others, rfl, takesWorkers, taken⟩ := taken.uncons
    obtain ⟨total, others, rfl, takesTotal, taken⟩ := taken.uncons
    obtain ⟨interval, others, rfl, takesInterval, taken⟩ := taken.uncons
    cases taken.eq_nil
    have workersRead := orDefault_natural default.load.workers takesWorkers
    have totalRead := orDefault_natural default.load.totalRequests takesTotal
    have intervalRead := orDefault_natural default.load.logEvery takesInterval
    rw [found]
    change (orDefault default.load.workers Datum.natural? workers >>= fun workers =>
      orDefault default.load.totalRequests Datum.natural? total >>= fun total =>
        orDefault default.load.logEvery Datum.natural? interval >>= fun interval =>
          pure (LoadConfig.mk workers total interval)) = _
    rw [workersRead, totalRead, intervalRead]
    rfl

theorem scenario_of_takes
    (takes : MemberFit.Takes ⟨"scenario", true, fitShape (Document.shape ScenarioConfig)⟩
      (document.member? (keysOf Config) "scenario") value) :
    orDefault {} Document.ofDatum? value =
      some ((Layer.ofDocument document).onto default).scenario := by
  simp only [Layer.onto, Layer.ofDocument, Variable.node?, node?]
  apply orDefault_record (by decide) takes
  · intro missing
    rw [missing]
    rfl
  · intro node values found taken
    obtain ⟨seed, others, rfl, takesSeed, taken⟩ := taken.uncons
    cases taken.eq_nil
    have seedRead := optional?_natural takesSeed
    rw [found]
    change (seed.optional? Datum.natural? >>= fun seed => pure (ScenarioConfig.mk seed)) =
      some (ScenarioConfig.mk (Option.or _ none))
    rw [seedRead, Option.or_none]
    rfl

/-- A document that fits its shape is read as the built-in settings with what
it says instead. -/
theorem ofDatum?_of_fitShape {datum : Datum}
    (fitted : fitShape (Document.shape Config) document = .ok datum) :
    Document.ofDatum? datum = some ((Layer.ofDocument document).onto default) := by
  obtain ⟨values, rfl, taken⟩ := taken_of_fitRecord (by decide) fitted
  obtain ⟨target, others, rfl, takesTarget, taken⟩ := taken.uncons
  obtain ⟨load, others, rfl, takesLoad, taken⟩ := taken.uncons
  obtain ⟨scenario, others, rfl, takesScenario, taken⟩ := taken.uncons
  cases taken.eq_nil
  have targetRead := target_of_takes takesTarget
  have loadRead := load_of_takes takesLoad
  have scenarioRead := scenario_of_takes takesScenario
  change (orDefault {} Document.ofDatum? target >>= fun target =>
    orDefault {} Document.ofDatum? load >>= fun load =>
      orDefault {} Document.ofDatum? scenario >>= fun scenario =>
        pure (Config.mk target load scenario)) = _
  rw [targetRead, loadRead, scenarioRead]
  rfl

/-! ## Files -/

theorem ofText_eq (text : String) :
    ofText text = (Layer.ofText text).map fun layer => layer.onto default := by
  unfold ofText Layer.ofText readDocument readDatum
  cases Table.read text with
  | none => rfl
  | some table =>
      simp only
      cases fitted : fitShape (Document.shape Config) (.inline table.entries) with
      | error cause => rfl
      | ok datum =>
          simp only [bind, Except.bind, ofDatum?_of_fitShape fitted]
          rfl

theorem ofFile_eq (readFile : FileReader) (path : String) :
    ofFile readFile path = (Layer.ofFile readFile path).map fun layer => layer.onto default := by
  unfold ofFile Layer.ofFile ofBytes
  cases readFile path with
  | error cause => rfl
  | ok bytes =>
      simp only
      cases String.fromUTF8? ⟨bytes.toArray⟩ with
      | none => rfl
      | some text => exact ofText_eq text

theorem base_eq (readFile : FileReader) (arguments : CommandLine.Arguments) :
    base readFile arguments =
      (Layer.ofGivenFile readFile arguments.config).map fun layer => layer.onto default := by
  unfold base
  cases arguments.config with
  | none => rfl
  | some path =>
      simp only [Layer.ofGivenFile, ofFile_eq]
      cases Layer.ofFile readFile path with
      | error cause => rfl
      | ok layer => rfl

end Config

end ReservationLoad

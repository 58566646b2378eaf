import ReservationLoad.Proofs.Config.File
import ReservationLoad.Proofs.Config.Variables

/-!
# Layered settings

The settings of a run come from the arguments, the environment, a file and the
built-in ones, in this order.  Each setting is decided on its own, by the
first layer that says something about it, and only what has been decided is
checked for fitness: an unfit value that a higher layer overrides does no harm.
A numeric variable of the environment has to be legible even then.

What a variable says is what its text stands for (`StandsFor`), and what is wrong
with an illegible one is the first flaw of its text (`IsFlawed`).  Neither speaks of
a reader.
-/

namespace ReservationLoad.Config

/-! ## The layers -/

def Layer.ofArguments (arguments : CommandLine.Arguments) : Layer where
  url := arguments.url
  number
    | .timeoutMs => arguments.timeoutMs
    | .workers => arguments.workers
    | .totalRequests => arguments.totalRequests
    | .logEvery => arguments.logEvery
    | .seed => arguments.seed

/-- Is a layer what an environment says?  Its target is taken as it is, and a
numeric variable says the word that its text stands for. -/
structure Layer.ToldBy (lookup : Lookup) (layer : Layer) : Prop where
  url : layer.url = lookup urlVariable
  number : ∀ which v, layer.number which = some v ↔
    ∃ raw, lookup which.name = some raw ∧ StandsFor raw v.toNat

/-- Is a variable either not set or the numeral of a word? -/
def Variable.Legible (lookup : Lookup) (which : Variable) : Prop :=
  ∀ raw, lookup which.name = some raw → ∃ v : UInt64, StandsFor raw v.toNat

/-- A configuration that a run can be made with. -/
structure Usable (readUrl : Url.Parser) (config : Config) : Prop where
  workers : 1 ≤ config.load.workers
  timeout : 1 ≤ config.target.timeoutMs
  logEvery : 1 ≤ config.load.logEvery
  target : ∃ url, readUrl config.target.url = .ok url ∧
    (url.scheme = "http" ∨ url.scheme = "https")

/-- Why no run can be made with a configuration: the first of all reasons in this
order. -/
inductive Unfit (readUrl : Url.Parser) (config : Config) : Fault → Prop
  | noWorkers (none : config.load.workers = 0) : Unfit readUrl config .noWorkers
  | noTimeout (workers : 1 ≤ config.load.workers) (none : config.target.timeoutMs = 0) :
    Unfit readUrl config .noTimeout
  | noLogInterval (workers : 1 ≤ config.load.workers) (timeout : 1 ≤ config.target.timeoutMs)
    (none : config.load.logEvery = 0) : Unfit readUrl config .noLogInterval
  | badUrl {cause : Url.Fault} (workers : 1 ≤ config.load.workers)
    (timeout : 1 ≤ config.target.timeoutMs) (logEvery : 1 ≤ config.load.logEvery)
    (bad : readUrl config.target.url = .error cause) :
    Unfit readUrl config (.badUrl config.target.url cause)
  | notHttp {url : Url} (workers : 1 ≤ config.load.workers)
    (timeout : 1 ≤ config.target.timeoutMs) (logEvery : 1 ≤ config.load.logEvery)
    (read : readUrl config.target.url = .ok url)
    (other : url.scheme ≠ "http" ∧ url.scheme ≠ "https") :
    Unfit readUrl config (.notHttp config.target.url)

/-- What the layers decide on, each setting by itself. -/
def decided (arguments : CommandLine.Arguments) (environment file : Layer) : Layer :=
  (Layer.ofArguments arguments).above <| environment.above <| file.above <| .ofConfig default

section

variable (readUrl : Url.Parser) (readFile : FileReader) (lookup : Lookup)
  (arguments : CommandLine.Arguments)

/-- What it takes for a configuration to be loaded. -/
structure Loaded (config : Config) : Prop where
  /-- The file, if one is given, is readable, and the layers decide on every
  setting by itself. -/
  layers : ∃ file environment, Layer.ofGivenFile readFile arguments.config = .ok file ∧
    environment.ToldBy lookup ∧ Layer.ofConfig config = decided arguments environment file
  /-- Every numeric variable is legible, even if it is overridden. -/
  legible : ∀ which : Variable, which.Legible lookup
  usable : config.Usable readUrl

/-- Why no configuration is loaded: the first of all reasons in this order. -/
inductive Refused : Fault → Prop
  | unread {fault : Fault} (read : Layer.ofGivenFile readFile arguments.config = .error fault) :
    Refused fault
  | illegible {file : Layer} {before after : List Variable} {which : Variable} {raw : String}
    {cause : Text.NumeralFault} (read : Layer.ofGivenFile readFile arguments.config = .ok file)
    (order : Variable.all = before ++ which :: after)
    (legible : ∀ earlier ∈ before, earlier.Legible lookup)
    (found : lookup which.name = some raw) (flawed : IsFlawed raw cause) :
    Refused (.badVariable which.name raw cause)
  | unfit {file environment : Layer} {config : Config} {fault : Fault}
    (read : Layer.ofGivenFile readFile arguments.config = .ok file)
    (legible : ∀ which : Variable, which.Legible lookup) (told : environment.ToldBy lookup)
    (layers : Layer.ofConfig config = decided arguments environment file)
    (unfit : config.Unfit readUrl fault) : Refused fault

end

variable {readUrl : Url.Parser} {lookup : Lookup} {arguments : CommandLine.Arguments}
  {config : Config} {readFile : FileReader} {file : Layer}

/-- A configuration is no more than what it says. -/
theorem Layer.ofConfig_injective {first second : Config}
    (same : ofConfig first = ofConfig second) : first = second := by
  have url := congrArg Layer.url same
  have number := congrArg Layer.number same
  have timeoutMs := congrFun number .timeoutMs
  have workers := congrFun number .workers
  have totalRequests := congrFun number .totalRequests
  have logEvery := congrFun number .logEvery
  have seed := congrFun number .seed
  obtain ⟨⟨_, _⟩, ⟨_, _, _⟩, ⟨_⟩⟩ := first
  obtain ⟨⟨_, _⟩, ⟨_, _, _⟩, ⟨_⟩⟩ := second
  cases url
  cases timeoutMs
  cases workers
  cases totalRequests
  cases logEvery
  cases seed
  rfl

/-! ## The environment -/

/-- What is read of an environment, -/
def Layer.ofEnvironment (lookup : Lookup) : Layer where
  url := lookup urlVariable
  number which := (lookup which.name).bind fun raw => (which.read raw).toOption

/-- which is what it says and nothing else. -/
theorem Layer.toldBy_iff {layer : Layer} : layer.ToldBy lookup ↔ layer = ofEnvironment lookup := by
  have reads : ∀ (which : Variable) (v : UInt64), (ofEnvironment lookup).number which = some v ↔
      ∃ raw, lookup which.name = some raw ∧ StandsFor raw v.toNat := by
    intro which v
    simp only [← which.read_eq_ok_iff, ofEnvironment, Option.bind_eq_some_iff]
    refine exists_congr fun raw => and_congr_right fun _ => ?_
    cases which.read raw with
    | error fault => exact ⟨nofun, nofun⟩
    | ok value => exact ⟨fun | rfl => rfl, fun | rfl => rfl⟩
  constructor
  · rintro ⟨url, number⟩
    apply Layer.ext url
    funext which
    exact Option.ext fun v => (number which v).trans (reads which v).symm
  · rintro rfl
    exact ⟨rfl, reads⟩

theorem Variable.legible_iff {which : Variable} : which.Legible lookup ↔
    ∀ raw, lookup which.name = some raw → ∃ v, which.read raw = .ok v := by
  simp only [Legible, which.read_eq_ok_iff]

/-- The configuration with the value that a variable has, if it has one. -/
def Variable.give (which : Variable) (given : Option UInt64) (config : Config) : Config :=
  match given with
  | none => config
  | some value => which.assign value config

theorem Variable.url_give (which : Variable) (given : Option UInt64) (config : Config) :
    (which.give given config).target.url = config.target.url := by
  cases given with
  | none => rfl
  | some value => cases which <;> rfl

/-- A variable changes its own setting and no other. -/
theorem Variable.number?_give (which other : Variable) (given : Option UInt64)
    (config : Config) :
    (which.give given config).number? other =
      if other = which then given.or (config.number? other) else config.number? other := by
  cases given with
  | none => exact (ite_self _).symm
  | some value => cases which <;> cases other <;> rfl

/-- A legible variable is applied, whatever comes behind it. -/
theorem applyVariables_cons {which : Variable} (legible : which.Legible lookup)
    (later : List Variable) (config : Config) :
    applyVariables lookup (which :: later) config =
      applyVariables lookup later
        (which.give ((Layer.ofEnvironment lookup).number which) config) := by
  cases found : lookup which.name with
  | none => simp only [applyVariables, Layer.ofEnvironment, found, Option.bind_none, Variable.give]
  | some raw =>
      obtain ⟨value, read⟩ := Variable.legible_iff.mp legible raw found
      simp only [applyVariables, Layer.ofEnvironment, found, read, Option.bind_some,
        Except.toOption, Variable.give]

/-- Legible variables are all applied, each to its own setting. -/
theorem applyVariables_of_legible {chosen : List Variable}
    (legible : ∀ which ∈ chosen, which.Legible lookup) (config : Config) :
    ∃ result : Config, applyVariables lookup chosen config = (result, none) ∧
      result.target.url = config.target.url ∧
      ∀ which, result.number? which =
        if which ∈ chosen then
          ((Layer.ofEnvironment lookup).number which).or (config.number? which)
        else config.number? which := by
  induction chosen generalizing config with
  | nil => exact ⟨config, rfl, rfl, fun which => rfl⟩
  | cons first later ih =>
      obtain ⟨result, applied, url, number⟩ := ih
        (fun which inside => legible which (List.mem_cons_of_mem first inside))
        (first.give ((Layer.ofEnvironment lookup).number first) config)
      refine ⟨result, ?_, ?_, ?_⟩
      · rw [applyVariables_cons (legible first List.mem_cons_self), applied]
      · rw [url, Variable.url_give]
      · intro which
        rw [number which, Variable.number?_give]
        by_cases same : which = first
        · -- Should the variable come again, it only says the same again.
          subst same
          rw [if_pos rfl, if_pos List.mem_cons_self, ← Option.or_assoc, Option.or_self, ite_self]
        · simp only [List.mem_cons, same, false_or, if_false]

/-- Application stops at the first illegible variable. -/
theorem applyVariables_of_illegible {before : List Variable} (after : List Variable)
    {which : Variable} {raw : String} {fault : Fault}
    (legible : ∀ earlier ∈ before, earlier.Legible lookup) (found : lookup which.name = some raw)
    (illegible : which.read raw = .error fault) (config : Config) :
    (applyVariables lookup (before ++ which :: after) config).2 = some fault := by
  induction before generalizing config with
  | nil => simp only [List.nil_append, applyVariables, found, illegible]
  | cons first later ih =>
      rw [List.cons_append, applyVariables_cons (legible first List.mem_cons_self)]
      exact ih (fun earlier inside => legible earlier (List.mem_cons_of_mem first inside)) _

theorem Variable.mem_all (which : Variable) : which ∈ all := by
  cases which <;> decide

theorem url_withUrlVariable (lookup : Lookup) (config : Config) :
    (config.withUrlVariable lookup).target.url =
      (lookup urlVariable).getD config.target.url := by
  unfold withUrlVariable
  cases lookup urlVariable with
  | none => rfl
  | some url => rfl

theorem number?_withUrlVariable (lookup : Lookup) (config : Config) (which : Variable) :
    (config.withUrlVariable lookup).number? which = config.number? which := by
  unfold withUrlVariable
  cases lookup urlVariable with
  | none => rfl
  | some url => cases which <;> rfl

theorem withEnvironment_of_legible (legible : ∀ which : Variable, which.Legible lookup)
    (config : Config) :
    config.withEnvironment lookup = .ok ((Layer.ofEnvironment lookup).onto config) := by
  obtain ⟨result, applied, url, number⟩ := applyVariables_of_legible
    (fun which (_ : which ∈ Variable.all) => legible which) (config.withUrlVariable lookup)
  have said : result = (Layer.ofEnvironment lookup).onto config := by
    apply Layer.ofConfig_injective
    rw [Layer.ofConfig_onto]
    apply Layer.ext
    · change some result.target.url = (lookup urlVariable).or (some config.target.url)
      rw [url, url_withUrlVariable, Option.or_some]
    · funext which
      change result.number? which =
        ((Layer.ofEnvironment lookup).number which).or (config.number? which)
      rw [number, if_pos which.mem_all, number?_withUrlVariable]
  rw [withEnvironment, applyEnvironment, applied, said]

theorem withEnvironment_of_illegible {before after : List Variable} {which : Variable}
    {raw : String} {fault : Fault} (order : Variable.all = before ++ which :: after)
    (legible : ∀ earlier ∈ before, earlier.Legible lookup)
    (found : lookup which.name = some raw) (illegible : which.read raw = .error fault)
    (config : Config) : config.withEnvironment lookup = .error fault := by
  have stopped := applyVariables_of_illegible after legible found illegible
    (config.withUrlVariable lookup)
  rw [← order] at stopped
  unfold withEnvironment applyEnvironment
  split
  next result passed =>
    rw [passed] at stopped
    cases stopped
  next result fault' stopped' =>
    rw [stopped'] at stopped
    exact congrArg Except.error (Option.some.inj stopped)

/-! ## Fitness -/

theorem one_le_iff {n : UInt64} : 1 ≤ n ↔ n ≠ 0 := by
  rw [UInt64.le_iff_toNat_le, Ne, ← UInt64.toNat_inj]
  change 1 ≤ n.toNat ↔ n.toNat ≠ 0
  exact Nat.one_le_iff_ne_zero

theorem Usable.validate_eq (usable : config.Usable readUrl) : config.validate readUrl = .ok () := by
  obtain ⟨workers, timeout, logEvery, url, read, http⟩ := usable
  have isHttp : url.isHttp = true := by simpa [Url.isHttp] using http
  rw [validate, if_neg (one_le_iff.mp workers), if_neg (one_le_iff.mp timeout),
    if_neg (one_le_iff.mp logEvery), read]
  exact if_pos isHttp

theorem Unfit.validate_eq {fault : Fault} (unfit : config.Unfit readUrl fault) :
    config.validate readUrl = .error fault := by
  cases unfit with
  | noWorkers none => rw [validate, if_pos none]
  | noTimeout workers none => rw [validate, if_neg (one_le_iff.mp workers), if_pos none]
  | noLogInterval workers timeout none =>
      rw [validate, if_neg (one_le_iff.mp workers), if_neg (one_le_iff.mp timeout), if_pos none]
  | badUrl workers timeout logEvery bad =>
      rw [validate, if_neg (one_le_iff.mp workers), if_neg (one_le_iff.mp timeout),
        if_neg (one_le_iff.mp logEvery), bad]
  | notHttp workers timeout logEvery read other =>
      rw [validate, if_neg (one_le_iff.mp workers), if_neg (one_le_iff.mp timeout),
        if_neg (one_le_iff.mp logEvery), read]
      refine if_neg ?_
      simpa [Url.isHttp] using other

/-- A configuration is usable, or there is a first reason why it is not. -/
theorem usable_or_unfit (readUrl : Url.Parser) (config : Config) :
    config.Usable readUrl ∨ ∃ fault, config.Unfit readUrl fault := by
  by_cases workers : config.load.workers = 0
  · exact .inr ⟨_, .noWorkers workers⟩
  have workers := one_le_iff.mpr workers
  by_cases timeout : config.target.timeoutMs = 0
  · exact .inr ⟨_, .noTimeout workers timeout⟩
  have timeout := one_le_iff.mpr timeout
  by_cases logEvery : config.load.logEvery = 0
  · exact .inr ⟨_, .noLogInterval workers timeout logEvery⟩
  have logEvery := one_le_iff.mpr logEvery
  cases read : readUrl config.target.url with
  | error cause => exact .inr ⟨_, .badUrl workers timeout logEvery read⟩
  | ok url =>
      by_cases http : url.scheme = "http" ∨ url.scheme = "https"
      · exact .inl ⟨workers, timeout, logEvery, url, read, http⟩
      · exact .inr ⟨_, .notHttp workers timeout logEvery read (not_or.mp http)⟩

theorem usable_of_validate (valid : config.validate readUrl = .ok ()) :
    config.Usable readUrl := by
  rcases usable_or_unfit readUrl config with usable | ⟨fault, unfit⟩
  · exact usable
  · cases valid.symm.trans unfit.validate_eq

/-! ## Loading -/

/-- The configuration that the layers decide on. -/
def merged (arguments : CommandLine.Arguments) (lookup : Lookup) (file : Layer) : Config :=
  (Layer.ofArguments arguments).onto <| (Layer.ofEnvironment lookup).onto <| file.onto default

theorem Layer.ofConfig_merged (arguments : CommandLine.Arguments) (lookup : Lookup)
    (file : Layer) :
    ofConfig (merged arguments lookup file) = decided arguments (ofEnvironment lookup) file := by
  rw [merged, ofConfig_onto, ofConfig_onto, ofConfig_onto, decided]

/-- Behind a readable file come the environment and the arguments, and the
whole is validated last. -/
theorem effective_of_read (read : Layer.ofGivenFile readFile arguments.config = .ok file) :
    effective readUrl readFile lookup arguments =
      (file.onto default).withEnvironment lookup >>= fun config =>
        (config.withArguments arguments).validate readUrl >>= fun _ =>
          pure (config.withArguments arguments) := by
  rw [effective, base_eq, read]
  rfl

/-- With legible variables all depends on the fitness of what the layers
decide on. -/
theorem effective_of_decided {environment : Layer}
    (read : Layer.ofGivenFile readFile arguments.config = .ok file)
    (legible : ∀ which : Variable, which.Legible lookup) (told : environment.ToldBy lookup)
    (layers : Layer.ofConfig config = decided arguments environment file) :
    effective readUrl readFile lookup arguments =
      (config.validate readUrl).map fun _ => config := by
  cases Layer.toldBy_iff.mp told
  cases Layer.ofConfig_injective (layers.trans (Layer.ofConfig_merged _ _ _).symm)
  rw [effective_of_read read, withEnvironment_of_legible legible]
  rfl

theorem effective_of_loaded (loaded : Loaded readUrl readFile lookup arguments config) :
    effective readUrl readFile lookup arguments = .ok config := by
  obtain ⟨file, environment, read, told, layers⟩ := loaded.layers
  rw [effective_of_decided read loaded.legible told layers, loaded.usable.validate_eq]
  rfl

theorem effective_of_refused {fault : Fault}
    (refused : Refused readUrl readFile lookup arguments fault) :
    effective readUrl readFile lookup arguments = .error fault := by
  cases refused with
  | unread read =>
      rw [effective, base_eq, read]
      rfl
  | @illegible file before after which raw cause read order legible found flawed =>
      rw [effective_of_read read, withEnvironment_of_illegible order legible found
        (which.read_eq_error_iff.mpr ⟨cause, flawed, rfl⟩)]
      rfl
  | unfit read legible told layers unfit =>
      rw [effective_of_decided read legible told layers, unfit.validate_eq]
      rfl

/-- Only what is fit for a run is loaded. -/
theorem usable_of_effective (result : effective readUrl readFile lookup arguments = .ok config) :
    config.Usable readUrl := by
  obtain ⟨_, -, result⟩ := Wire.exists_of_bind_eq_ok result
  obtain ⟨_, -, result⟩ := Wire.exists_of_bind_eq_ok result
  obtain ⟨⟨⟩, valid, result⟩ := Wire.exists_of_bind_eq_ok result
  cases result
  exact usable_of_validate valid

theorem Variable.legible_or (lookup : Lookup) (which : Variable) :
    which.Legible lookup ∨ ∃ raw cause, lookup which.name = some raw ∧ IsFlawed raw cause := by
  by_cases legible : which.Legible lookup
  · exact .inl legible
  · simp only [Legible, not_forall] at legible
    obtain ⟨raw, found, none⟩ := legible
    obtain ⟨cause, flawed⟩ := exists_isFlawed_iff.mpr (not_exists.mp none)
    exact .inr ⟨raw, cause, found, flawed⟩

/-- Variables are legible, or one is the first that is not. -/
theorem legible_or_exists_first (lookup : Lookup) (chosen : List Variable) :
    (∀ which ∈ chosen, which.Legible lookup) ∨
      ∃ before which after raw cause, chosen = before ++ which :: after ∧
        (∀ earlier ∈ before, Variable.Legible lookup earlier) ∧
        lookup which.name = some raw ∧ IsFlawed raw cause := by
  induction chosen with
  | nil => exact .inl (List.forall_mem_nil _)
  | cons first later ih =>
      rcases first.legible_or lookup with legible | ⟨raw, cause, found, flawed⟩
      · rcases ih with all | ⟨before, which, after, raw, cause, rfl, earlier, found, flawed⟩
        · exact .inl (List.forall_mem_cons.mpr ⟨legible, all⟩)
        · refine .inr ⟨first :: before, which, after, raw, cause, rfl, ?_, found, flawed⟩
          exact List.forall_mem_cons.mpr ⟨legible, earlier⟩
      · exact .inr ⟨[], first, later, raw, cause, rfl, List.forall_mem_nil _, found, flawed⟩

theorem loaded_or_refused (readUrl : Url.Parser) (readFile : FileReader) (lookup : Lookup)
    (arguments : CommandLine.Arguments) :
    (∃ config, Loaded readUrl readFile lookup arguments config) ∨
      ∃ fault, Refused readUrl readFile lookup arguments fault := by
  cases read : Layer.ofGivenFile readFile arguments.config with
  | error fault => exact .inr ⟨fault, .unread read⟩
  | ok file =>
      rcases legible_or_exists_first lookup Variable.all with
        all | ⟨before, which, after, raw, cause, order, earlier, found, flawed⟩
      · have legible : ∀ which : Variable, which.Legible lookup :=
          fun which => all which which.mem_all
        have told := Layer.toldBy_iff.mpr (Eq.refl (Layer.ofEnvironment lookup))
        have layers := Layer.ofConfig_merged arguments lookup file
        rcases usable_or_unfit readUrl (merged arguments lookup file) with
          usable | ⟨fault, unfit⟩
        · exact .inl ⟨_, ⟨file, _, read, told, layers⟩, legible, usable⟩
        · exact .inr ⟨fault, .unfit read legible told layers unfit⟩
      · exact .inr ⟨_, .illegible read order earlier found flawed⟩

/-- A configuration is loaded just when the file that is given can be read,
every numeric variable is legible and what the layers decide on, each setting
by itself, is fit for a run.  Otherwise the first reason against it is
reported and there is no configuration. -/
theorem effective_characterized (readUrl : Url.Parser) (readFile : FileReader) (lookup : Lookup)
    (arguments : CommandLine.Arguments) :
    (∀ config, effective readUrl readFile lookup arguments = .ok config ↔
      Loaded readUrl readFile lookup arguments config) ∧
    ∀ fault, effective readUrl readFile lookup arguments = .error fault ↔
      Refused readUrl readFile lookup arguments fault := by
  refine ⟨fun config => ⟨?_, effective_of_loaded⟩, fun fault => ⟨?_, effective_of_refused⟩⟩
  · intro result
    rcases loaded_or_refused readUrl readFile lookup arguments with
      ⟨config', loaded⟩ | ⟨fault, refused⟩
    · have result' := effective_of_loaded loaded
      rw [result] at result'
      cases result'
      exact loaded
    · rw [effective_of_refused refused] at result
      cases result
  · intro result
    rcases loaded_or_refused readUrl readFile lookup arguments with
      ⟨config, loaded⟩ | ⟨fault', refused⟩
    · rw [effective_of_loaded loaded] at result
      cases result
    · have result' := effective_of_refused refused
      rw [result] at result'
      cases result'
      exact refused

-- The file asks for no workers at all, but the arguments for three.
example :
    (effective (fun _ => .ok { scheme := "http" })
      (fun _ => .ok "[load]\nworkers = 0".toUTF8.data.toList) (fun _ => none)
      { config := some "stress.toml", workers := some 3 }).toOption =
    some { load := { workers := 3 } } := by
  decide +kernel

end ReservationLoad.Config

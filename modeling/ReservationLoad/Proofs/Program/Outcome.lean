import ReservationLoad.Proofs.Config.Layers
import ReservationLoad.Proofs.LoadTest.ExactlyOnce
import ReservationLoad.Proofs.Program.Scenes
import ReservationLoad.Proofs.Results.Document

/-!
# How the program ends

Arguments that cannot be carried out, settings that cannot be used and a
network that cannot be reached each end the program with an exit code of their
own, before anything is posted, reported or saved (`Ending.Idle`).  Behind them
nothing that happens to a request makes the program fail: however its load test
goes, all requests are posted, the report is printed once and the exit code is
zero (`Ending.Completed`).  A result that cannot be saved costs one warning.  What
is saved is followed into the file: its bytes are the text of one object, in which
the settings and the printed report are found.

Only arithmetic that is checked, and that stops at the product for a percentile of
more requests than 2⁶⁴ has thousandths, breaks the program off behind its load
test (`Ending.BrokenDown`).

How the load test goes is left open.  A `Conduct` stands for any schedule of
the workers and any answers to their posts, breakdowns included.
-/

namespace ReservationLoad

open Chance Json Wire

namespace Program

variable {σ : Type}

/-! ## What is printed -/

def Line.text? : Line → Option String
  | .event _ => none
  | .text line => some line

/-- The printed lines that are no events. -/
def Ending.texts (ending : Ending) : List String := ending.output.filterMap Line.text?

theorem texts_shown (filter : Log.Filter) (events : List Log.Event) :
    (shown filter events).filterMap Line.text? = [] := by
  rw [List.filterMap_eq_nil_iff]
  intro line inside
  obtain ⟨event, -, rfl⟩ := List.mem_map.mp (List.mem_of_mem_filter inside)
  rfl

theorem texts_lines (lines : List String) :
    (lines.map Line.text).filterMap Line.text? = lines := by
  rw [List.filterMap_map]
  exact List.filterMap_some

/-- Texts without the heading of a report hold no report. -/
theorem not_lines_infix {texts : List String} (unheaded : "=== Stress Summary ===" ∉ texts)
    (report : Report) : ¬ report.lines <:+: texts :=
  fun inside => unheaded (inside.subset List.mem_cons_self)

/-! ## Ends without a report -/

/-- How the program ends without a report: nothing is printed of one, saved or changed
on the disk. -/
structure Ending.Unreported (around : Surroundings σ) (ending : Ending) : Prop where
  report : ending.report = none
  /-- No report can be found in what is printed. -/
  unprinted : ∀ report : Report, ¬ report.lines <:+: ending.texts
  resultPath : ending.resultPath = none
  disk : ending.disk = around.disk

/-- How the program ends in front of its load test: with nothing posted either. -/
structure Ending.Idle (around : Surroundings σ) (exitCode : Nat) (ending : Ending) : Prop
    extends ending.Unreported around where
  exitCode : ending.exitCode = exitCode
  posts : ending.posts = []

/-- How the program ends behind a load test whose percentiles cannot be placed. -/
structure Ending.BrokenDown (around : Surroundings σ) (config : Config) (pool : Pool σ)
    (ending : Ending) : Prop extends ending.Unreported around where
  exitCode : ending.exitCode = breakdownCode
  posts : ending.posts = pool.shared.posts
  length_posts : ending.posts.length = config.load.totalRequests.toNat

/-! ## Ends with a report -/

/-- A file tells of a run: it holds the text of one object, in which the settings of
the run and its report are found. -/
structure TellsRun (disk : Files.Disk) (path : String) (mode : Mode) (transportName : String)
    (config : Config) (report : Report) : Prop where
  object : ∃ text timestamp, disk.read .free path = .ok text.toUTF8.toList ∧
    ∀ value, IsText value text ↔ value = .object
      [("timestamp", .text timestamp), ("mode", .text mode.word),
        ("transport", .text transportName), ("config", ofDocument config),
        ("report", ofDocument report)]
  /-- The one member reads as the settings, -/
  config : ∀ text, IsText (ofDocument config) text → readDocument Config text = .ok config
  /-- the other one as the report, if its figures come back from their texts. -/
  report : (∀ x ∈ report.figures, Survives x) → ∀ text, IsText (ofDocument report) text →
    readDocument Report text = .ok report

/-- How the program ends behind a load test, whatever came of its requests. -/
structure Ending.Completed (conduct : Conduct σ) (around : Surroundings σ)
    (arguments : CommandLine.Arguments) (config : Config) (transportName : String)
    (pool : Pool σ) (report : Report) (ending : Ending) : Prop where
  exitCode : ending.exitCode = 0
  /-- The posts are those of the load test, one for each request. -/
  posts : ending.posts = pool.shared.posts
  length_posts : ending.posts.length = config.load.totalRequests.toNat
  /-- The report is printed once, and no other text is. -/
  reported : ending.report = some report
  printed : ending.texts = "" :: report.lines ++ [""]
  complaint : ending.complaint = ""
  /-- The result is saved if that is wanted and possible, -/
  saved_iff : ending.resultPath.isSome = true ↔ arguments.noExport = false ∧
    (around.call arguments config transportName report).CanSave arguments.resultsDir around.disk
  /-- in a file that tells the settings of the run and the printed report. -/
  file : ∀ path, ending.resultPath = some path →
    TellsRun ending.disk path arguments.mode transportName config report
  /-- Saved or not, no other file has changed and nothing is gone, -/
  saving : arguments.noExport = false → ∃ outcome, outcome.toOption = ending.resultPath ∧
    (around.call arguments config transportName report).Effect arguments.resultsDir around.disk
      outcome ending.disk
  untouched : arguments.noExport = true → ending.disk = around.disk
  /-- and where it was wanted a warning is all that its lack adds. -/
  warned : arguments.noExport = false → ending.resultPath = none → ∃ warning : Log.Event,
    warning.level = .warn ∧
      ending =
        { around.ending conduct { arguments with noExport := true } with
          output := (around.ending conduct { arguments with noExport := true }).output ++
            shown around.filter [warning]
          disk := ending.disk }

/-! ## Load tests that come to their end -/

/-- Every load test comes to its end, under some schedule and with some
answers. -/
def Conduct.Ends [WordSource σ] (streams : Nat → σ) (conduct : Conduct σ) : Prop :=
  ∀ config transport, (conduct config transport).hasEnded = true ∧
    ∃ history, Pool.Run (LoadTest.settings config) (LoadTest.initial config streams) history
      (conduct config transport)

/-- Whatever a transport is exchanged for, the schedule of choice leads to the
end. -/
theorem ends_run [WordSource σ] (streams : Nat → σ) (exchange : Transport → Transport) :
    Conduct.Ends streams fun config transport =>
      LoadTest.run config (exchange transport) streams := by
  intro config transport
  refine ⟨(Pool.supplied_seeded streams _ _ .empty []).run_hasEnded _ _, ?_⟩
  exact Pool.Run.of_reaches (Pool.run_reaches _ _ _)

/-! ## All ends -/

/-- How the program ends for everything that it may find around it. -/
structure EndsProperly (conduct : Conduct σ) (around : Surroundings σ) (ending : Ending) :
    Prop where
  help : CommandLine.read around.arguments = .error .helpWanted → ending.Idle around 0
  rejected : ∀ fault, CommandLine.read around.arguments = .error fault → fault ≠ .helpWanted →
    ending.Idle around 2
  unconfigured : ∀ arguments fault, CommandLine.read around.arguments = .ok arguments →
    Config.effective around.readUrl (around.disk.read around.conditions) around.environment
      arguments = .error fault → ending.Idle around 1
  unconnected : ∀ arguments config causes, CommandLine.read around.arguments = .ok arguments →
    Config.effective around.readUrl (around.disk.read around.conditions) around.environment
      arguments = .ok config →
    around.transport arguments config = .error causes → ending.Idle around 1
  completed : ∀ arguments config chosen, CommandLine.read around.arguments = .ok arguments →
    Config.effective around.readUrl (around.disk.read around.conditions) around.environment
      arguments = .ok config →
    around.transport arguments config = .ok chosen →
    around.arithmetic.Places config.load.totalRequests.toNat →
    ∃ report, LoadTest.report around.arithmetic config around.elapsed (conduct config chosen) =
        .ok report ∧
      ending.Completed conduct around arguments config chosen.name (conduct config chosen) report
  brokenDown : ∀ arguments config chosen, CommandLine.read around.arguments = .ok arguments →
    Config.effective around.readUrl (around.disk.read around.conditions) around.environment
      arguments = .ok config →
    around.transport arguments config = .ok chosen →
    ¬ around.arithmetic.Places config.load.totalRequests.toNat →
    ending.BrokenDown around config (conduct config chosen)

variable {conduct : Conduct σ} {around : Surroundings σ} {arguments : CommandLine.Arguments}
  {config : Config}

theorem unreported_of_texts {ending : Ending} {texts : List String}
    (report : ending.report = none) (printed : ending.texts = texts)
    (unheaded : "=== Stress Summary ===" ∉ texts) (resultPath : ending.resultPath = none)
    (disk : ending.disk = around.disk) : ending.Unreported around :=
  ⟨report, printed ▸ not_lines_infix unheaded, resultPath, disk⟩

theorem idle_runWith_of_help (read : CommandLine.read around.arguments = .error .helpWanted) :
    (runWith conduct around).Idle around 0 := by
  have unheaded : "=== Stress Summary ===" ∉ CommandLine.helpLines := by decide +kernel
  have ending : runWith conduct around =
      { exitCode := 0, output := CommandLine.helpLines.map Line.text, complaint := "",
        disk := around.disk, posts := [], report := none, resultPath := none } := by
    rw [runWith, World.run, read]
    dsimp only
    rw [Files.run_bind, run_forM_print]
    change Ending.mk _ (List.reverse (List.reverse _ ++ [])) _ _ _ _ _ = _
    rw [List.append_nil, List.reverse_reverse]
    rfl
  rw [ending]
  exact ⟨unreported_of_texts rfl (texts_lines _) unheaded rfl rfl, rfl, rfl⟩

theorem idle_runWith_of_rejected {fault : CommandLine.Fault}
    (read : CommandLine.read around.arguments = .error fault) (other : fault ≠ .helpWanted) :
    (runWith conduct around).Idle around 2 := by
  rw [runWith, World.run, read]
  cases fault with
  | helpWanted => exact absurd rfl other
  | _ => exact ⟨unreported_of_texts rfl rfl List.not_mem_nil rfl rfl, rfl, rfl⟩

theorem workers_pos (loaded : Config.effective around.readUrl (around.disk.read around.conditions)
    around.environment arguments = .ok config) : 0 < config.load.workers :=
  UInt64.lt_of_lt_of_le (by decide) (Config.usable_of_effective loaded).workers

theorem length_posts [WordSource σ] {history : History} {pool : Pool σ}
    (loaded : Config.effective around.readUrl (around.disk.read around.conditions)
      around.environment arguments = .ok config)
    (run : Pool.Run (LoadTest.settings config) (LoadTest.initial config around.streams) history
      pool) (ended : pool.hasEnded = true) :
    pool.shared.posts.length = config.load.totalRequests.toNat := by
  have number := (LoadTest.posts_perm (workers_pos loaded) run ended).length_eq
  rw [List.length_map, List.length_range'] at number
  exact number

/-- The ways in which the export of a result may go. -/
inductive Exported (around : Surroundings σ) (arguments : CommandLine.Arguments)
    (call : Results.Call) : List Log.Event → Option String → Files.Disk → Prop
  | unwanted (noExport : arguments.noExport = true) :
      Exported around arguments call [] none around.disk
  | saved {path : String} {disk : Files.Disk} (wanted : arguments.noExport = false)
      (done : call.run arguments.resultsDir around.disk = (.ok path, disk)) :
      Exported around arguments call [.saved path] (some path) disk
  | failed {fault : Results.Fault} {disk : Files.Disk} (wanted : arguments.noExport = false)
      (done : call.run arguments.resultsDir around.disk = (.error fault, disk)) :
      Exported around arguments call [.notSaved fault.chain] none disk

theorem exported_cases (around : Surroundings σ) (arguments : CommandLine.Arguments)
    (config : Config) (transportName : String) (report : Report) :
    Exported around arguments (around.call arguments config transportName report)
      (around.exported arguments config transportName report).1
      (around.exported arguments config transportName report).2.1
      (around.exported arguments config transportName report).2.2 := by
  unfold Surroundings.exported
  split
  next noExport => exact .unwanted noExport
  next wanted =>
    split
    next done => exact .saved (Bool.eq_false_iff.mpr wanted) done
    next done => exact .failed (Bool.eq_false_iff.mpr wanted) done

section Loaded

variable {chosen : Transport} {report : Report}
  (loaded : Config.effective around.readUrl (around.disk.read around.conditions)
    around.environment arguments = .ok config)
  (connected : around.transport arguments config = .ok chosen)

include loaded connected

theorem completed_ending
    (made : LoadTest.report around.arithmetic config around.elapsed (conduct config chosen) =
      .ok report)
    (number : (conduct config chosen).shared.posts.length = config.load.totalRequests.toNat) :
    (around.ending conduct arguments).Completed conduct around arguments config chosen.name
      (conduct config chosen) report := by
  have ended := ending_of_report loaded connected made
  have effect := (around.call arguments config chosen.name report).effect arguments.resultsDir
    around.disk
  have unsaved := @ending_of_report σ conduct around { arguments with noExport := true } config
    loaded chosen connected report made
  have exported := exported_cases around arguments config chosen.name report
  generalize around.exported arguments config chosen.name report = outcome at ended exported
  obtain ⟨events, resultPath, disk⟩ := outcome
  dsimp only at ended exported
  have printed : (around.ending conduct arguments).texts = "" :: report.lines ++ [""] := by
    rw [ended, Ending.texts, List.filterMap_append, List.filterMap_append, texts_shown,
      Surroundings.leading, texts_shown, List.nil_append, List.append_nil, reportLines, texts_lines]
  rw [ended] at printed ⊢
  refine
    { exitCode := rfl
      posts := rfl
      length_posts := number
      reported := rfl
      printed
      complaint := rfl
      saved_iff := ?saved_iff
      file := ?file
      saving := ?saving
      untouched := ?untouched
      warned := ?warned }
  case saved_iff =>
    rw [← effect.succeeds]
    cases exported with
    | unwanted noExport => simp [noExport]
    | saved wanted done => simp [wanted, done]
    | failed wanted done => simp [done]
  case file =>
    rintro path ⟨⟩
    cases exported with
    | saved wanted done =>
        refine ⟨⟨_, (around.clock 0).stamp, Results.read_of_run done, fun value =>
          RunResult.isText_text_iff _⟩, ?_, ?_⟩
        · exact fun _ isText => config.faithful.readDocument_eq isText
        · exact fun survive _ isText => (Report.faithful survive).readDocument_eq isText
  case saving =>
    intro wanted
    cases exported with
    | unwanted noExport => cases noExport.symm.trans wanted
    | saved _ done =>
        rw [done] at effect
        exact ⟨_, rfl, effect⟩
    | failed _ done =>
        rw [done] at effect
        exact ⟨_, rfl, effect⟩
  case untouched =>
    intro noExport
    cases exported with
    | unwanted => rfl
    | saved wanted => cases noExport.symm.trans wanted
    | failed wanted => cases noExport.symm.trans wanted
  case warned =>
    rintro wanted ⟨⟩
    cases exported with
    | unwanted noExport => cases noExport.symm.trans wanted
    | @failed fault disk _ done =>
        have silent :
            around.exported { arguments with noExport := true } config chosen.name report =
              ([], none, around.disk) := rfl
        have nothing : shown around.filter [] = [] := rfl
        refine ⟨.notSaved fault.chain, rfl, ?_⟩
        rw [unsaved, silent]
        dsimp only
        rw [nothing, List.append_nil]

theorem brokenDown_ending {overflow : Overflow}
    (stopped : LoadTest.report around.arithmetic config around.elapsed (conduct config chosen) =
      .error overflow)
    (number : (conduct config chosen).shared.posts.length = config.load.totalRequests.toNat) :
    (around.ending conduct arguments).BrokenDown around config (conduct config chosen) := by
  rw [ending_of_overflow loaded connected stopped]
  exact ⟨unreported_of_texts rfl (texts_shown _ _) List.not_mem_nil rfl rfl, rfl, rfl, number⟩

end Loaded

theorem endsProperly_runWith [WordSource σ] (ends : conduct.Ends around.streams) :
    EndsProperly conduct around (runWith conduct around) where
  help := idle_runWith_of_help
  rejected _ := idle_runWith_of_rejected
  unconfigured arguments fault read refused := by
    rw [runWith_of_read read, ending_of_refused refused]
    exact ⟨unreported_of_texts rfl rfl List.not_mem_nil rfl rfl, rfl, rfl⟩
  unconnected arguments config causes read loaded refused := by
    rw [runWith_of_read read, ending_of_unconnected loaded refused]
    exact ⟨unreported_of_texts rfl (texts_shown _ _) List.not_mem_nil rfl rfl, rfl, rfl⟩
  completed arguments config chosen read loaded connected places := by
    obtain ⟨ended, history, run⟩ := ends config chosen
    have some := workers_pos loaded
    obtain ⟨report, made⟩ := (LoadTest.exists_report_iff some run ended).mpr places
    rw [runWith_of_read read]
    exact ⟨report, made, completed_ending loaded connected made (length_posts loaded run ended)⟩
  brokenDown arguments config chosen read loaded connected stuck := by
    obtain ⟨ended, history, run⟩ := ends config chosen
    have some := workers_pos loaded
    rw [runWith_of_read read]
    cases made :
      LoadTest.report around.arithmetic config around.elapsed (conduct config chosen) with
    | error overflow =>
        exact brokenDown_ending loaded connected made (length_posts loaded run ended)
    | ok report =>
        exact absurd ((LoadTest.exists_report_iff some run ended).mp ⟨report, made⟩) stuck

/-- **The program fails in front of its load test or not at all**: whatever is
around it, under the schedule of choice and however else its load test may
go. -/
theorem whole_program_ends_properly [WordSource σ] (around : Surroundings σ) :
    EndsProperly (fun config transport => LoadTest.run config transport around.streams) around
      (run around) ∧
    ∀ conduct : Conduct σ, conduct.Ends around.streams →
      EndsProperly conduct around (runWith conduct around) :=
  ⟨endsProperly_runWith (ends_run around.streams id), fun _ ends => endsProperly_runWith ends⟩

/-- Three requests, at each of which the transport breaks down, and a file in
the place of the directory for results. -/
theorem whole_program_ends_properly_after_breakdowns :
    let around : Surroundings Script :=
      { arguments := ["--mode", "mock", "--workers", "2", "--total-requests", "3"]
        environment := fun _ => none
        readUrl := fun _ => .ok { scheme := "http" }
        disk :=
          { workplace := ["work"]
            entries := [(["work"], .directory), (["work", "results"], .file 0)]
            bytes := fun _ => [] }
        conditions := .free
        arithmetic := .checked
        target := fun _ => .unreachable
        latency := fun _ => .zero
        networkFault := none
        streams := fun _ => .ofList []
        elapsed := ⟨1, 0⟩
        clock := fun reading => ⟨reading⟩ }
    let conduct : Conduct Script := fun config _ =>
      LoadTest.run config ⟨"mock", fun _ _ => ⟨.crashed none, .zero⟩⟩ around.streams
    conduct.Ends around.streams ∧ (runWith conduct around).exitCode = 0 ∧
      (runWith conduct around).posts.length = 3 ∧ (runWith conduct around).resultPath = none := by
  intro around conduct
  have ends : conduct.Ends around.streams := ends_run around.streams _
  have read : CommandLine.read around.arguments =
      .ok { mode := .mock, workers := some 2, totalRequests := some 3 } := by decide +kernel
  have loaded : Config.effective around.readUrl (around.disk.read around.conditions)
      around.environment { mode := .mock, workers := some 2, totalRequests := some 3 } =
        .ok { load := { workers := 2, totalRequests := 3 } } := by
    have found : (Config.effective around.readUrl (around.disk.read around.conditions)
        around.environment { mode := .mock, workers := some 2, totalRequests := some 3 }).toOption =
          some { load := { workers := 2, totalRequests := 3 } } := by decide +kernel
    generalize Config.effective around.readUrl (around.disk.read around.conditions)
      around.environment { mode := .mock, workers := some 2, totalRequests := some 3 } =
        result at found ⊢
    cases result with
    | error fault => cases found
    | ok config =>
        cases found
        rfl
  obtain ⟨report, -, completed⟩ := ((whole_program_ends_properly around).2 conduct ends).completed
    _ _ _ read loaded rfl (.inr (by decide))
  have taken : (((Files.Disk.calls .free).makeDirectories "results").run around.disk).1 =
      .error .alreadyThere := by decide +kernel
  refine ⟨ends, completed.exitCode, completed.length_posts, Option.not_isSome_iff_eq_none.mp ?_⟩
  rw [completed.saved_iff]
  rintro ⟨-, opened, found, -⟩
  unfold Results.Call.opened? Results.Call.made? at found
  split at found
  next made done =>
    have made := congrArg Prod.fst done
    cases made.symm.trans taken
  next => cases found

end Program

end ReservationLoad

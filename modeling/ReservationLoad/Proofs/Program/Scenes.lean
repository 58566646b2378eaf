import ReservationLoad.Program
import ReservationLoad.Proofs.Results.Store

/-!
# What the program does to a scene

For each part of the program the scene in which it ends is given in terms of the
scene in which it begins: lines are printed behind others, a load test leaves its
posts, and the saving of a result is a call on the disk at a reading of the clock.
Put together these say how the program ends for its surroundings, without a word
about the order in which it did what it did.
-/

namespace ReservationLoad.Program

open Chance
open Files (run_bind)

/-- Is a line printed under a filter? -/
def Line.isShown (filter : Log.Filter) : Line → Bool
  | .event happened => filter.passes happened
  | .text _ => true

/-- The events that a filter lets pass, as lines. -/
def shown (filter : Log.Filter) (events : List Log.Event) : List Line :=
  (events.map Line.event).filter (·.isShown filter)

theorem shown_append (filter : Log.Filter) (events later : List Log.Event) :
    shown filter (events ++ later) = shown filter events ++ shown filter later := by
  rw [shown, List.map_append, List.filter_append]
  rfl

/-- A scene with further lines. -/
def Scene.printing (scene : Scene) (lines : List Line) : Scene :=
  { scene with output := lines.reverse ++ scene.output }

theorem Scene.printing_printing (scene : Scene) (lines later : List Line) :
    (scene.printing lines).printing later = scene.printing (lines ++ later) := by
  rw [printing, printing, printing, List.reverse_append, List.append_assoc]

variable {σ : Type} (conduct : Conduct σ) (around : Surroundings σ)
  (arguments : CommandLine.Arguments) (config : Config)

/-- The filter of the log. -/
def Surroundings.filter : Log.Filter := .ofSetting (around.environment filterVariable)

/-! ## Printing -/

theorem run_forM_print (lines : List Line) (scene : Scene) :
    (lines.forM (around.world conduct).print).run scene = ((), scene.printing lines) := by
  induction lines generalizing scene with
  | nil => rfl
  | cons line later ih =>
      change (later.forM (around.world conduct).print).run (scene.printing [line]) = _
      rw [ih, Scene.printing_printing, List.singleton_append]

theorem run_tell (event : Log.Event) (scene : Scene) :
    ((around.world conduct).tell event).run scene =
      ((), scene.printing (shown around.filter [event])) := by
  unfold World.tell shown
  rw [List.map_singleton, List.filter_cons]
  change (if around.filter.passes event then (around.world conduct).print (.event event)
    else pure ()).run scene =
      ((), scene.printing (if around.filter.passes event then [.event event] else []))
  split <;> rfl

theorem run_forM_tell (events : List Log.Event) (scene : Scene) :
    (events.forM (around.world conduct).tell).run scene =
      ((), scene.printing (shown around.filter events)) := by
  induction events generalizing scene with
  | nil => rfl
  | cons event later ih =>
      change ((around.world conduct).tell event >>= fun _ =>
        later.forM (around.world conduct).tell).run scene = _
      rw [run_bind, run_tell, ih, Scene.printing_printing, ← shown_append, List.singleton_append]

/-! ## Load tests -/

theorem run_workOff (pool : Pool σ) (scene : Scene) :
    (around.workOff pool (around.world conduct).tell).run scene =
      ((pool, around.elapsed),
        { scene.printing (shown around.filter pool.eventLog) with
          posts := pool.shared.posts }) := by
  unfold Surroundings.workOff
  rw [run_bind, run_forM_tell]
  rfl

/-- A load test tells its events and leaves its posts. -/
theorem run_conduct (pool : Pool σ) (scene : Scene) :
    (LoadTest.conduct around.arithmetic config (around.world conduct).tell
        (around.workOff pool (around.world conduct).tell)).run scene =
      (LoadTest.report around.arithmetic config around.elapsed pool,
        { scene.printing (shown around.filter
            (LoadTest.eventLog config around.elapsed pool)) with
          posts := pool.shared.posts }) := by
  simp only [LoadTest.conduct, run_bind, run_tell, run_workOff]
  have all : shown around.filter (LoadTest.eventLog config around.elapsed pool) =
      shown around.filter
          [.sending config.load.totalRequests config.target.url config.load.workers] ++
        (shown around.filter pool.eventLog ++
          shown around.filter
            [.allFinished pool.processed around.elapsed.toSeconds]) := by
    rw [← shown_append, ← shown_append]
    rfl
  rw [all, ← Scene.printing_printing, ← Scene.printing_printing]
  rfl

/-! ## Settings -/

/-- Of a way to read files nothing counts but what it makes of the file that is
given. -/
theorem effective_of_agree {readUrl : Url.Parser} {readFile readFile' : Config.FileReader}
    {lookup : Config.Lookup} {arguments : CommandLine.Arguments}
    (agree : ∀ path ∈ arguments.config, readFile path = readFile' path) :
    Config.effective readUrl readFile lookup arguments =
      Config.effective readUrl readFile' lookup arguments := by
  have base : Config.base readFile arguments = Config.base readFile' arguments := by
    unfold Config.base Config.ofFile
    cases given : arguments.config with
    | none => rfl
    | some path =>
        dsimp only
        rw [agree path given]
  rw [Config.effective, Config.effective, base]

theorem run_loadConfig (scene : Scene) :
    ((around.world conduct).loadConfig arguments).run scene =
      (Config.effective around.readUrl (scene.disk.read around.conditions) around.environment
        arguments, scene) := by
  unfold World.loadConfig
  cases given : arguments.config with
  | none =>
      refine congrArg (·, scene) (effective_of_agree ?_)
      rw [given]
      exact nofun
  | some path =>
      refine congrArg (·, scene) (effective_of_agree ?_)
      rw [given]
      rintro _ ⟨⟩
      rfl

/-! ## Saving -/

/-- The call that saves the result of a run. -/
def Surroundings.call (transportName : String) (report : Report) : Results.Call where
  conditions := around.conditions
  now := around.clock 1
  result :=
    { timestamp := (around.clock 0).stamp
      mode := arguments.mode
      transport := transportName
      config
      report }

/-- What comes of the export of a result: the events, the path of the file and the
disk. -/
def Surroundings.exported (transportName : String) (report : Report) :
    List Log.Event × Option String × Files.Disk :=
  if arguments.noExport then ([], none, around.disk)
  else
    match (around.call arguments config transportName report).run arguments.resultsDir
        around.disk with
    | (.ok path, disk) => ([.saved path], some path, disk)
    | (.error fault, disk) => ([.notSaved fault.chain], none, disk)

theorem run_makeDirectories (directory : String) (scene : Scene) :
    ((around.world conduct).files.makeDirectories directory).run scene =
      let made := ((Files.Disk.calls around.conditions).makeDirectories directory).run scene.disk
      (made.1, { scene with disk := made.2 }) := by
  change (((Files.Disk.calls around.conditions).lift onDisk).makeDirectories directory).run
    scene = _
  rw [Files.Calls.makeDirectories_lift _ (fun _ => rfl) (fun _ _ => rfl)]
  rfl

theorem run_now (scene : Scene) :
    (around.world conduct).now.run scene =
      (around.clock scene.readings, { scene with readings := scene.readings + 1 }) := rfl

theorem run_write (path : String) (bytes : List UInt8) (scene : Scene) :
    ((around.world conduct).files.write path bytes).run scene =
      ((scene.disk.write around.conditions path bytes).1,
        { scene with disk := (scene.disk.write around.conditions path bytes).2 }) := rfl

/-- To save a result is a call on the disk of the scene. -/
theorem run_save (directory : String) (result : RunResult) (scene : Scene) :
    ∃ readings, (Results.save (around.world conduct).files (around.world conduct).now directory
        result).run scene =
      let call : Results.Call := ⟨around.conditions, around.clock scene.readings, result⟩
      ((call.run directory scene.disk).1,
        { scene with disk := (call.run directory scene.disk).2, readings }) := by
  simp only [Results.Call.run_eq, Results.save, run_bind, run_makeDirectories]
  rcases ((Files.Disk.calls around.conditions).makeDirectories directory).run scene.disk with
    ⟨cause | ⟨⟩, made⟩
  · exact ⟨scene.readings, rfl⟩
  · refine ⟨scene.readings + 1, ?_⟩
    dsimp only
    rw [run_bind, run_now, run_bind, run_write, Results.pathAt]
    rcases made.write around.conditions
      (Files.join directory (Results.fileName (around.clock scene.readings))) result.bytes with
      ⟨cause | ⟨⟩, later⟩ <;> rfl

theorem run_saveRun (transportName : String) (report : Report) (scene : Scene)
    (disk : scene.disk = around.disk) (unread : scene.readings = 0) :
    ∃ readings,
      ((around.world conduct).saveRun arguments config transportName report).run scene =
        let (events, path, disk) := around.exported arguments config transportName report
        (path, ({ scene with disk, readings } : Scene).printing (shown around.filter events)) := by
  obtain ⟨_, output, complaint, posts, _⟩ := scene
  cases disk
  cases unread
  cases wanted : arguments.noExport with
  | true =>
      rw [World.saveRun, Surroundings.exported, wanted]
      exact ⟨0, rfl⟩
  | false =>
      obtain ⟨readings, saved⟩ := run_save conduct around arguments.resultsDir
        { timestamp := (around.clock 0).stamp, mode := arguments.mode,
          transport := transportName, config, report } ⟨around.disk, output, complaint, posts, 1⟩
      refine ⟨readings, ?_⟩
      have read : (around.world conduct).now.run ⟨around.disk, output, complaint, posts, 0⟩ =
          (around.clock 0, ⟨around.disk, output, complaint, posts, 1⟩) := rfl
      rw [World.saveRun, Surroundings.exported, wanted, if_neg Bool.false_ne_true,
        if_neg Bool.false_ne_true, run_bind, read]
      dsimp only
      rw [run_bind, saved, Surroundings.call]
      dsimp only
      rcases Results.Call.run _ arguments.resultsDir around.disk with ⟨cause | path, later⟩
      all_goals
        dsimp only
        rw [run_bind, run_tell]
        rfl

/-- Behind a report come its lines and the export of the result. -/
theorem run_conclude (connection : Connection (StateM Scene)) (report : Report) (scene : Scene)
    (made : (connection.loadTest (around.world conduct).tell).run scene = (.ok report, scene))
    (disk : scene.disk = around.disk) (unread : scene.readings = 0) :
    ∃ readings, ((around.world conduct).conclude arguments config connection).run scene =
      let (events, resultPath, disk) := around.exported arguments config connection.name report
      ({ exitCode := 0, report := some report, resultPath },
        ({ scene with disk, readings } : Scene).printing
          (reportLines report ++ shown around.filter events)) := by
  obtain ⟨readings, saved⟩ := run_saveRun conduct around arguments config connection.name report
    (scene.printing (reportLines report)) disk unread
  refine ⟨readings, ?_⟩
  rw [World.conclude, run_bind, made]
  dsimp only
  rw [run_bind, run_forM_print, run_bind, saved]
  refine congrArg (Prod.mk _) ?_
  exact Scene.printing_printing { scene with disk := _, readings } _ _

/-! ## Whole runs -/

/-- How the program ends once its arguments are read. -/
def Surroundings.ending : Ending :=
  let (done, scene) := ((around.world conduct).carryOut arguments).run { disk := around.disk }
  .of done scene

variable {conduct around arguments config}

theorem runWith_of_read (read : CommandLine.read around.arguments = .ok arguments) :
    runWith conduct around = around.ending conduct arguments := by
  rw [runWith, World.run, read]
  rfl

/-- The lines in front of a report: those of the events that lead to it. -/
def Surroundings.leading (around : Surroundings σ) (mode : Mode) (config : Config)
    (transportName : String) (pool : Pool σ) : List Line :=
  shown around.filter (announcement mode config ++ (.connected transportName ::
    LoadTest.eventLog config around.elapsed pool))

/-- A scene in which a complaint was made in front of no other. -/
theorem run_complain (text : String) (scene : Scene) (silent : scene.complaint = "") :
    ((around.world conduct).complain text).run scene = ((), { scene with complaint := text }) := by
  change ((), { scene with complaint := scene.complaint ++ text }) = _
  rw [silent, String.empty_append]

theorem ending_of_refused {fault : Config.Fault}
    (refused : Config.effective around.readUrl (around.disk.read around.conditions)
      around.environment arguments = .error fault) :
    around.ending conduct arguments =
      { exitCode := 1, output := [], complaint := failureText fault.chain, disk := around.disk,
        posts := [], report := none, resultPath := none } := by
  rw [Surroundings.ending, World.carryOut, run_bind, run_loadConfig]
  dsimp only
  rw [refused]
  dsimp only
  rw [run_bind, run_complain _ _ rfl]
  rfl

section Loaded

variable (loaded : Config.effective around.readUrl (around.disk.read around.conditions)
  around.environment arguments = .ok config)

include loaded

theorem ending_of_unconnected {causes : List String}
    (unconnected : around.transport arguments config = .error causes) :
    around.ending conduct arguments =
      { exitCode := 1, output := shown around.filter (announcement arguments.mode config),
        complaint := failureText causes, disk := around.disk, posts := [], report := none,
        resultPath := none } := by
  have connect : ∀ scene, ((around.world conduct).connect arguments config).run scene =
      (.error causes, scene) := by
    intro scene
    change ((around.transport arguments config).map _, scene) = _
    rw [unconnected]
    rfl
  rw [Surroundings.ending, World.carryOut, run_bind, run_loadConfig]
  dsimp only
  rw [loaded]
  dsimp only
  rw [run_bind, run_forM_tell, run_bind, connect]
  dsimp only
  rw [run_bind, run_complain _ _ rfl]
  change Ending.mk 1 (((shown around.filter (announcement arguments.mode config)).reverse ++
    []).reverse) _ _ _ _ _ = _
  rw [List.append_nil, List.reverse_reverse]
  rfl

variable {chosen : Transport} (connected : around.transport arguments config = .ok chosen)

include connected

/-- The load test is made in front of everything else that the program does. -/
theorem run_carryOut : ((around.world conduct).carryOut arguments).run { disk := around.disk } =
    ((around.world conduct).conclude arguments config
      { name := chosen.name
        loadTest := fun _ => pure <|
          LoadTest.report around.arithmetic config around.elapsed (conduct config chosen) }).run
      { disk := around.disk
        output := (around.leading arguments.mode config chosen.name (conduct config chosen)).reverse
        posts := (conduct config chosen).shared.posts } := by
  have connect : ∀ scene, ((around.world conduct).connect arguments config).run scene =
      (.ok
        { name := chosen.name
          loadTest := fun tell =>
            LoadTest.conduct around.arithmetic config tell
              (around.workOff (conduct config chosen) tell) }, scene) := by
    intro scene
    change ((around.transport arguments config).map _, scene) = _
    rw [connected]
    rfl
  have leading : around.leading arguments.mode config chosen.name (conduct config chosen) =
      shown around.filter (announcement arguments.mode config) ++
        (shown around.filter [.connected chosen.name] ++
          shown around.filter
            (LoadTest.eventLog config around.elapsed (conduct config chosen))) := by
    rw [← shown_append, ← shown_append]
    rfl
  rw [World.carryOut, run_bind, run_loadConfig]
  dsimp only
  rw [loaded]
  dsimp only
  rw [run_bind, run_forM_tell, run_bind, connect]
  dsimp only
  rw [run_bind, run_tell, Scene.printing_printing, World.conclude, run_bind, run_conduct,
    World.conclude, run_bind, leading]
  dsimp only
  rw [Scene.printing_printing, List.append_assoc, Scene.printing, List.append_nil]
  rfl

/-- Checked arithmetic that stops at a percentile breaks the program off. -/
theorem ending_of_overflow {overflow : Overflow}
    (stopped : LoadTest.report around.arithmetic config around.elapsed (conduct config chosen) =
      .error overflow) :
    around.ending conduct arguments =
      { exitCode := breakdownCode,
        output := around.leading arguments.mode config chosen.name (conduct config chosen),
        complaint := overflow.message ++ "\n", disk := around.disk,
        posts := (conduct config chosen).shared.posts, report := none, resultPath := none } := by
  rw [Surroundings.ending, run_carryOut loaded connected, World.conclude, run_bind, stopped]
  change (match ((around.world conduct).complain _ >>= fun _ => pure _ : StateM Scene Done).run _
    with | (done, scene) => Ending.of done scene) = _
  rw [run_bind, run_complain _ _ rfl]
  change Ending.mk _ (List.reverse (List.reverse _)) _ _ _ _ _ = _
  rw [List.reverse_reverse]
  rfl

theorem ending_of_report {report : Report}
    (made : LoadTest.report around.arithmetic config around.elapsed (conduct config chosen) =
      .ok report) :
    around.ending conduct arguments =
      { exitCode := 0,
        output := around.leading arguments.mode config chosen.name (conduct config chosen) ++
          reportLines report ++
          shown around.filter (around.exported arguments config chosen.name report).1,
        complaint := "", disk := (around.exported arguments config chosen.name report).2.2,
        posts := (conduct config chosen).shared.posts, report := some report,
        resultPath := (around.exported arguments config chosen.name report).2.1 } := by
  obtain ⟨readings, concluded⟩ := run_conclude conduct around arguments config
    ⟨chosen.name, fun _ => return .ok report⟩ report
    ⟨around.disk, (around.leading arguments.mode config chosen.name
      (conduct config chosen)).reverse, "", (conduct config chosen).shared.posts, 0⟩ rfl rfl rfl
  rw [Surroundings.ending, run_carryOut loaded connected, made, concluded]
  dsimp only
  generalize around.exported arguments config chosen.name report = outcome
  obtain ⟨events, resultPath, disk⟩ := outcome
  change Ending.mk _ (List.reverse (List.reverse _ ++ List.reverse _)) _ _ _ _ _ = _
  rw [List.reverse_append, List.reverse_reverse, List.reverse_reverse, ← List.append_assoc]
  rfl

end Loaded

end ReservationLoad.Program

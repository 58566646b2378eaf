import Mathlib.Data.List.Dedup
import ReservationLoad.Proofs.Calendar.Stamp
import ReservationLoad.Proofs.Files.Paths
import ReservationLoad.Proofs.Results.Document

/-!
# Saved results and later ones

The name of a result file tells a second.  A call that saves a result leaves every file
as it was but for one, the file to which the name of its second leads, and of that it
replaces what was there even where it fails to write all of its text.  So of the calls
that are made one after the other only the last one shows in each file.  As long as no
two names lead to one file, that is the last one of its second.
-/

namespace ReservationLoad.Results

open Files Calendar

/-! ## Names of result files -/

theorem fileName_eq_iff {i j : Instant} : fileName i = fileName j ↔ i.seconds = j.seconds := by
  rw [← Instant.fileStamp_eq_iff, fileName, fileName, String.append_left_inj,
    String.append_right_inj]

/-- The characters of a name; the stamp in it is not to be evaluated. -/
theorem toList_fileName (now : Instant) :
    (fileName now).toList = 's' :: ("tress_".toList ++ now.stampChars ++ ".json".toList) := by
  have letters : ∀ stamp : List Char, ("stress_" ++ String.ofList stamp ++ ".json").toList =
      's' :: ("tress_".toList ++ stamp ++ ".json".toList) := fun stamp => by simp
  exact letters now.stampChars

theorem isPlainName_fileName (now : Instant) : IsPlainName (fileName now) := by
  have first : ∀ other : String, other.toList.head? ≠ some 's' → fileName now ≠ other := by
    rintro other head rfl
    rw [toList_fileName] at head
    exact head rfl
  refine ⟨first _ (by decide), ?_, first _ (by decide), first _ (by decide)⟩
  rw [toList_fileName, List.mem_cons, List.mem_append, List.mem_append]
  rintro (start | (front | stamp) | behind)
  · cases start
  · exact absurd front (by decide)
  · rcases Instant.mem_stampChars stamp with digit | low | sign
    · cases digit
    · cases low
    · cases sign
  · exact absurd behind (by decide)

/-- The path of the file of a second. -/
def pathOfSecond (directory : String) (second : Nat) : String :=
  pathAt directory ⟨second * 1000000000⟩

theorem pathAt_eq_iff {directory : String} {i j : Instant} :
    pathAt directory i = pathAt directory j ↔ i.seconds = j.seconds := by
  rw [pathAt, pathAt, (join_injective directory).eq_iff, fileName_eq_iff]

theorem seconds_of_second (second : Nat) : (⟨second * 1000000000⟩ : Instant).seconds = second :=
  Nat.mul_div_cancel second (by decide)

theorem pathOfSecond_injective (directory : String) :
    Function.Injective (pathOfSecond directory) := by
  intro first second same
  have seconds := pathAt_eq_iff.mp same
  rwa [seconds_of_second, seconds_of_second] at seconds

theorem pathOfSecond_seconds (directory : String) (now : Instant) :
    pathOfSecond directory now.seconds = pathAt directory now :=
  pathAt_eq_iff.mpr (seconds_of_second now.seconds)

/-! ## Bytes of result files -/

theorem byteList_loop (bytes : ByteArray) (i : Nat) (before : List UInt8) :
    ByteArray.toList.loop bytes i before = before.reverse ++ bytes.data.toList.drop i := by
  fun_induction ByteArray.toList.loop bytes i before with
  | case1 i before inside ih =>
      have inside : i < bytes.data.toList.length := inside
      have here : bytes.get! i = bytes.data.toList[i] := getElem!_pos bytes.data i inside
      rw [ih, List.reverse_cons, List.append_assoc, List.singleton_append,
        List.drop_eq_getElem_cons inside, here]
  | case2 i before outside =>
      rw [List.drop_eq_nil_of_le (Nat.le_of_not_lt outside), List.append_nil]

theorem byteList (bytes : ByteArray) : bytes.toList = bytes.data.toList :=
  byteList_loop bytes 0 []

theorem bytes_eq_iff {r s : RunResult} : r.bytes = s.bytes ↔ r.text = s.text := by
  rw [RunResult.bytes, RunResult.bytes, byteList, byteList, Array.toList_inj,
    ← ByteArray.ext_iff, String.toUTF8, String.toUTF8, String.toByteArray_inj]

/-- The text of a result tells when it was made. -/
theorem timestamp_eq_of_text_eq {r s : RunResult} (same : r.text = s.text) :
    r.timestamp = s.timestamp := by
  have listed := s.isText_text_iff.mp (same ▸ r.isText_text)
  simp only [RunResult.members, Json.Value.object.injEq, List.cons.injEq, Prod.mk.injEq,
    Json.Value.text.injEq] at listed
  exact listed.1.2

/-! ## One call after the other -/

/-- What is known of a call behind it. -/
structure Receipt where
  call : Call
  outcome : Except Fault String
  writing : Option Writing

/-- Makes calls one after the other. -/
def saveAll (directory : String) : Disk → List Call → List Receipt × Disk
  | disk, [] => ([], disk)
  | disk, call :: calls =>
    let (outcome, later) := call.run directory disk
    let (receipts, last) := saveAll directory later calls
    (⟨call, outcome, call.writing? directory disk⟩ :: receipts, last)

/-- Has a call opened the file with a number? -/
def Receipt.opens (receipt : Receipt) (number : Nat) : Bool :=
  receipt.writing.any fun left => left.number = number

/-- The last call that has opened a file. -/
def lastOpening (receipts : List Receipt) (number : Nat) : Option Receipt :=
  (receipts.filter (·.opens number)).getLast?

theorem Receipt.opens_iff {receipt : Receipt} {number : Nat} :
    receipt.opens number = true ↔ ∃ left ∈ receipt.writing, left.number = number := by
  unfold opens
  cases receipt.writing <;> simp

theorem lastOpening_cons (receipt : Receipt) (receipts : List Receipt) (number : Nat) :
    lastOpening (receipt :: receipts) number =
      (lastOpening receipts number).or (if receipt.opens number then some receipt else none) := by
  unfold lastOpening
  cases opens : receipt.opens number with
  | true =>
      have here : (receipt :: receipts).filter (·.opens number) =
          receipt :: receipts.filter (·.opens number) := List.filter_cons_of_pos opens
      rw [here, List.getLast?_cons, if_pos rfl]
      cases (receipts.filter _).getLast? <;> rfl
  | false =>
      have absent : (receipt :: receipts).filter (·.opens number) =
          receipts.filter (·.opens number) := List.filter_cons_of_neg (by simp [opens])
      rw [absent, if_neg Bool.false_ne_true, Option.or_none]

/-- What calls that were made one after the other have changed. -/
structure Keeps (directory : String) (disk : Disk) (receipts : List Receipt) (last : Disk) :
    Prop where
  kept : disk.Extends last
  /-- New entries are those of directories and of files that calls have opened. -/
  gained : ∀ place entry, last.held? place = some entry →
    disk.held? place = some entry ∨ entry = .directory ∨
      ∃ receipt ∈ receipts, ∃ left ∈ receipt.writing, entry = .file left.number
  /-- A file holds what the last call has left that opened it, or else what it held. -/
  bytes : ∀ number, match lastOpening receipts number with
    | some final => ∃ left ∈ final.writing, left.number = number ∧
        last.bytes number = left.bytes
    | none => last.bytes number = disk.bytes number
  /-- The path of an instant leads to the file that was opened for it, -/
  leads : ∀ receipt ∈ receipts, ∀ left ∈ receipt.writing,
    last.LeadsTo (pathAt directory receipt.call.now) left.number
  /-- with a beginning of the text. -/
  beginning : ∀ receipt ∈ receipts, ∀ left ∈ receipt.writing,
    left.bytes <+: receipt.call.result.bytes
  /-- A path that was told is that of the instant, for all of the text. -/
  told : ∀ receipt ∈ receipts, ∀ path, receipt.outcome = .ok path →
    path = pathAt directory receipt.call.now ∧
      ∃ number, receipt.writing = some ⟨number, receipt.call.result.bytes⟩
  plain : disk.IsPlain → last.IsPlain

variable {directory : String} {disk later last : Disk} {call : Call} {receipts : List Receipt}
  {outcome : Except Fault String}

theorem keeps_nil (directory : String) (disk : Disk) : Keeps directory disk [] disk where
  kept := .refl disk
  gained _ _ there := .inl there
  bytes _ := rfl
  leads := List.forall_mem_nil _
  beginning := List.forall_mem_nil _
  told := List.forall_mem_nil _
  plain := id

/-- A call more, in front of the others. -/
theorem Keeps.cons (first : call.Effect directory disk outcome later)
    (rest : Keeps directory later receipts last) :
    Keeps directory disk (⟨call, outcome, call.writing? directory disk⟩ :: receipts) last where
  kept := first.changes.kept.trans rest.kept
  gained place entry there := by
    rcases rest.gained place entry there with before | directory | ⟨receipt, inside, found⟩
    · rcases first.changes.gained place entry before with earlier | directory | found
      · exact .inl earlier
      · exact .inr (.inl directory)
      · exact .inr (.inr ⟨_, List.mem_cons_self, found⟩)
    · exact .inr (.inl directory)
    · exact .inr (.inr ⟨receipt, List.mem_cons_of_mem _ inside, found⟩)
  bytes number := by
    have others := rest.bytes number
    have own := congrFun first.changes.bytes number
    rw [lastOpening_cons]
    cases known : lastOpening receipts number with
    | some final =>
        rw [known] at others
        exact others
    | none =>
        rw [known] at others
        rw [own] at others
        rw [Option.none_or]
        unfold Receipt.opens
        cases left : call.writing? directory disk with
        | none =>
            rw [left] at others
            exact others
        | some left' =>
            rw [left] at others
            by_cases here : left'.number = number
            · subst here
              simp only [Option.any_some, decide_true, if_true, Option.mem_def, Option.some.injEq,
                exists_eq_left', true_and]
              rw [others]
              exact Disk.bytes_fill disk left'.number left'.bytes
            · simp only [Option.any_some, here, decide_false, Bool.false_eq_true, if_false]
              rw [others]
              exact if_neg (Ne.symm here)
  leads := List.forall_mem_cons.mpr
    ⟨fun left inside => (first.leads left inside).mono rest.kept, rest.leads⟩
  beginning := List.forall_mem_cons.mpr ⟨first.beginning, rest.beginning⟩
  told := List.forall_mem_cons.mpr ⟨first.told, rest.told⟩
  plain isPlain := rest.plain (isPlain.of_changes first.changes)

theorem keeps_saveAll (directory : String) (disk : Disk) (calls : List Call) :
    Keeps directory disk (saveAll directory disk calls).1 (saveAll directory disk calls).2 := by
  induction calls generalizing disk with
  | nil => exact keeps_nil directory disk
  | cons call calls ih => exact (ih _).cons (call.effect directory disk)

theorem map_call_saveAll (directory : String) (disk : Disk) (calls : List Call) :
    (saveAll directory disk calls).1.map Receipt.call = calls := by
  induction calls generalizing disk with
  | nil => rfl
  | cons call calls ih => exact congrArg (call :: ·) (ih _)

/-! ## Seconds -/

/-- The paths that were told. -/
def pathsTold (receipts : List Receipt) : List String :=
  receipts.filterMap fun receipt => receipt.outcome.toOption

/-- The seconds for which a path was told. -/
def secondsTold (receipts : List Receipt) : List Nat :=
  (receipts.filter (·.outcome.isOk)).map (·.call.now.seconds)

/-- No file has the names of two seconds. -/
def NamesApart (directory : String) (disk : Disk) : Prop :=
  ∀ i j number, disk.LeadsTo (pathAt directory i) number →
    disk.LeadsTo (pathAt directory j) number → i.seconds = j.seconds

/-- Has a call of some second opened a file? -/
def Receipt.opensIn (receipt : Receipt) (second : Nat) : Bool :=
  receipt.writing.isSome && receipt.call.now.seconds = second

/-- What becomes of results that are saved one after the other. -/
structure LastOfEachSecond (directory : String) (disk : Disk) (calls : List Call)
    (receipts : List Receipt) (last : Disk) : Prop where
  /-- Every call has a receipt, -/
  ofCalls : receipts.map Receipt.call = calls
  /-- with the path of its second if it succeeds.  Then all of its text was written. -/
  told : ∀ receipt ∈ receipts, ∀ path, receipt.outcome = .ok path →
    path = pathAt directory receipt.call.now ∧
      ∃ number, receipt.writing = some ⟨number, receipt.call.result.bytes⟩
  /-- Two paths that were told are one path just when they are of the same second. -/
  samePath : ∀ one ∈ receipts, ∀ other ∈ receipts, ∀ path path',
    one.outcome = .ok path → other.outcome = .ok path' →
      (path = path' ↔ one.call.now.seconds = other.call.now.seconds)
  /-- There are as many paths as there are seconds. -/
  count : (pathsTold receipts).dedup.length = (secondsTold receipts).dedup.length
  /-- What was there is still there, -/
  entries : disk.Extends last
  /-- what is new are directories and files that calls have opened, -/
  gained : ∀ place entry, last.held? place = some entry →
    disk.held? place = some entry ∨ entry = .directory ∨
      ∃ receipt ∈ receipts, ∃ left ∈ receipt.writing, entry = .file left.number
  /-- and a file that no call has opened holds what it held. -/
  unchanged : ∀ number, (∀ receipt ∈ receipts, receipt.opens number = false) →
    last.bytes number = disk.bytes number
  /-- A path that was told reads as what the last call has left in its file, -/
  reads : ∀ receipt ∈ receipts, ∀ path, receipt.outcome = .ok path →
    ∃ number final left, last.LeadsTo path number ∧ lastOpening receipts number = some final ∧
      final.writing = some left ∧ left.bytes <+: final.call.result.bytes ∧
      last.read .free path = .ok left.bytes
  /-- which is the last call of the second, if names of seconds lead to different files. -/
  ofSecond : NamesApart directory last → ∀ receipt ∈ receipts, ∀ path,
    receipt.outcome = .ok path → ∃ final left,
      (receipts.filter (·.opensIn receipt.call.now.seconds)).getLast? = some final ∧
      final.writing = some left ∧ left.bytes <+: final.call.result.bytes ∧
      last.read .free path = .ok left.bytes
  /-- If no second comes twice then, each path leads to the result it was told for. -/
  lossless : NamesApart directory last →
    ((receipts.filter (·.writing.isSome)).map (·.call.now.seconds)).Nodup →
    ∀ receipt ∈ receipts, ∀ path, receipt.outcome = .ok path →
      last.read .free path = .ok receipt.call.result.bytes
  /-- They do so on a disk without links. -/
  apart : disk.IsPlain → NamesApart directory last

namespace Keeps

variable (keeps : Keeps directory disk receipts last)

include keeps

theorem map_pathsTold :
    pathsTold receipts = (secondsTold receipts).map (pathOfSecond directory) := by
  have told := keeps.told
  unfold pathsTold secondsTold
  clear keeps
  induction receipts with
  | nil => rfl
  | cons receipt receipts ih =>
      obtain ⟨own, others⟩ := List.forall_mem_cons.mp told
      cases known : receipt.outcome with
      | error fault =>
          rw [List.filterMap_cons_none (by rw [known]; rfl),
            List.filter_cons_of_neg (by rw [known]; exact Bool.false_ne_true), ih others]
      | ok path =>
          rw [List.filterMap_cons_some (by rw [known]; rfl),
            List.filter_cons_of_pos (by rw [known]; rfl), ih others, List.map_cons, List.map_cons,
            pathOfSecond_seconds, (own path known).1]

theorem samePath {one other : Receipt} {path path' : String} (first : one ∈ receipts)
    (second : other ∈ receipts) (told : one.outcome = .ok path)
    (told' : other.outcome = .ok path') :
    path = path' ↔ one.call.now.seconds = other.call.now.seconds := by
  rw [(keeps.told one first path told).1, (keeps.told other second path' told').1, pathAt_eq_iff]

theorem count : (pathsTold receipts).dedup.length = (secondsTold receipts).dedup.length := by
  rw [keeps.map_pathsTold, List.dedup_map_of_injective (pathOfSecond_injective directory),
    List.length_map]

theorem unchanged {number : Nat} (untouched : ∀ receipt ∈ receipts, receipt.opens number = false) :
    last.bytes number = disk.bytes number := by
  have none : lastOpening receipts number = none := by
    rw [lastOpening, List.filter_eq_nil_iff.mpr, List.getLast?_nil]
    intro receipt inside opens
    rw [untouched receipt inside] at opens
    cases opens
  have bytes := keeps.bytes number
  rw [none] at bytes
  exact bytes

/-- A path that was told reads as what was left in its file by the last call. -/
theorem reads {receipt : Receipt} {path : String} (inside : receipt ∈ receipts)
    (told : receipt.outcome = .ok path) :
    ∃ number final left, last.LeadsTo path number ∧ lastOpening receipts number = some final ∧
      final.writing = some left ∧ left.bytes <+: final.call.result.bytes ∧
      last.read .free path = .ok left.bytes := by
  obtain ⟨rfl, number, written⟩ := keeps.told receipt inside path told
  have leads := keeps.leads receipt inside _ written
  have opens : receipt.opens number = true := Receipt.opens_iff.mpr ⟨_, written, rfl⟩
  have some : receipts.filter (·.opens number) ≠ [] :=
    List.ne_nil_of_mem (List.mem_filter.mpr ⟨inside, opens⟩)
  have final := List.getLast?_eq_some_getLast some
  have bytes := keeps.bytes number
  rw [lastOpening, final] at bytes
  obtain ⟨left, wrote, -, same⟩ := bytes
  have among := (List.mem_filter.mp (List.getLast_mem some)).1
  refine ⟨number, _, left, leads, final, wrote, keeps.beginning _ among _ wrote, ?_⟩
  rw [leads.read, same]

/-- Where names lead to different files, a call opens the file of a path just when it
opens the file of its second. -/
theorem opens_eq (apart : NamesApart directory last) {receipt other : Receipt} {left : Writing}
    (inside : receipt ∈ receipts) (written : receipt.writing = some left)
    (inside' : other ∈ receipts) :
    other.opens left.number = other.opensIn receipt.call.now.seconds := by
  rw [Bool.eq_iff_iff, Receipt.opens_iff, Receipt.opensIn, Bool.and_eq_true,
    Option.isSome_iff_exists, decide_eq_true_eq]
  have leads := keeps.leads receipt inside left written
  constructor
  · rintro ⟨left', written', same⟩
    have leads' := keeps.leads other inside' left' written'
    rw [same] at leads'
    exact ⟨⟨left', written'⟩, apart _ _ _ leads' leads⟩
  · rintro ⟨⟨left', written'⟩, seconds⟩
    have leads' := keeps.leads other inside' left' written'
    rw [pathAt_eq_iff.mpr seconds] at leads'
    exact ⟨left', written', leads'.eq leads⟩

theorem ofSecond (apart : NamesApart directory last) {receipt : Receipt} {path : String}
    (inside : receipt ∈ receipts) (told : receipt.outcome = .ok path) :
    ∃ final left, (receipts.filter (·.opensIn receipt.call.now.seconds)).getLast? = some final ∧
      final.writing = some left ∧ left.bytes <+: final.call.result.bytes ∧
      last.read .free path = .ok left.bytes := by
  obtain ⟨number, final, left, leads, isLast, rest⟩ := keeps.reads inside told
  obtain ⟨rfl, own, written⟩ := keeps.told receipt inside path told
  cases leads.eq (keeps.leads receipt inside _ written)
  refine ⟨final, left, ?_, rest⟩
  rw [← isLast, lastOpening]
  exact congrArg List.getLast? (List.filter_congr fun other inside' =>
    (keeps.opens_eq apart inside written inside').symm)

theorem lossless (apart : NamesApart directory last)
    (once : ((receipts.filter (·.writing.isSome)).map (·.call.now.seconds)).Nodup)
    {receipt : Receipt} {path : String} (inside : receipt ∈ receipts)
    (told : receipt.outcome = .ok path) :
    last.read .free path = .ok receipt.call.result.bytes := by
  obtain ⟨final, left, isLast, written, -, reads⟩ := keeps.ofSecond apart inside told
  obtain ⟨-, number, own⟩ := keeps.told receipt inside path told
  obtain ⟨among, opens⟩ := List.mem_filter.mp (List.mem_of_getLast? isLast)
  obtain ⟨opened, seconds⟩ := Bool.and_eq_true_iff.mp opens
  have one : receipt ∈ receipts.filter (·.writing.isSome) :=
    List.mem_filter.mpr ⟨inside, by rw [own]; rfl⟩
  have same := List.inj_on_of_nodup_map once (List.mem_filter.mpr ⟨among, opened⟩) one
    (of_decide_eq_true seconds)
  rw [same, own] at written
  cases written
  exact reads

/-- The names of different seconds are different names. -/
theorem apart (isPlain : disk.IsPlain) : NamesApart directory last := by
  intro i j number leads leads'
  exact fileName_eq_iff.mp ((keeps.plain isPlain).eq_of_leadsTo (isPlainName_fileName i)
    (isPlainName_fileName j) leads leads')

end Keeps

/-- A call that saves a result changes the file of its second and no other one, and tells
its path if all of the text is there.  So of calls that are made one after the other, each
file shows the last one that opened it. -/
theorem each_second_keeps_its_last_result :
    (∀ (call : Call) directory disk,
      call.Effect directory disk (call.run directory disk).1 (call.run directory disk).2) ∧
    ∀ directory disk calls,
      LastOfEachSecond directory disk calls (saveAll directory disk calls).1
        (saveAll directory disk calls).2 := by
  refine ⟨Call.effect, fun directory disk calls => ?_⟩
  have keeps := keeps_saveAll directory disk calls
  exact
    { ofCalls := map_call_saveAll directory disk calls
      told := keeps.told
      samePath := fun _ first _ second _ _ told told' => keeps.samePath first second told told'
      count := keeps.count
      entries := keeps.kept
      gained := keeps.gained
      unchanged := fun _ => keeps.unchanged
      reads := fun _ inside _ told => keeps.reads inside told
      ofSecond := fun apart _ inside _ told => keeps.ofSecond apart inside told
      lossless := fun apart once _ inside _ told => keeps.lossless apart once inside told
      apart := keeps.apart }

/-! ## Two results in a second -/

/-- A result of a run without requests. -/
def idle (timestamp : String) : RunResult where
  timestamp := timestamp
  mode := .mock
  transport := "mock"
  config := .default
  report := ⟨.zero, 0, 0, 0, .zero, none⟩

/-- A call to which nothing is refused. -/
def freeCall (nanoseconds : Nat) (timestamp : String) : Call :=
  ⟨.free, ⟨nanoseconds⟩, idle timestamp⟩

/-- A working directory without results. -/
def emptyDisk : Disk where
  workplace := ["work"]
  entries := [(["work"], .directory)]
  bytes _ := []

theorem isPlain_emptyDisk : emptyDisk.IsPlain := by
  have entries : ∀ place entry, emptyDisk.held? place = some entry → entry = .directory := by
    intro place entry found
    unfold Disk.held? at found
    split at found
    next => exact (Option.some.inj found).symm
    next =>
      have inside := Disk.mem_of_lookup found
      simp only [emptyDisk, List.mem_singleton, Prod.mk.injEq] at inside
      exact inside.2
  refine ⟨fun place => ?_, fun place other number there => ?_⟩
  · rw [Option.eq_none_iff_forall_ne_some]
    intro target linked
    cases entries _ _ (Disk.link?_eq_some.mp linked)
  · cases entries _ _ there

/-- The working directory with a result of the first second. -/
def savedAtFirst (bytes : List UInt8) : Disk where
  workplace := ["work"]
  entries :=
    [(["work", "results", "stress_19700101_000000.json"], .file 0),
      (["work", "results"], .directory), (["work"], .directory)]
  bytes number := if number = 0 then bytes else []

theorem ready_savedAtFirst (bytes : List UInt8) :
    ((Disk.calls .free).makeDirectories "results").run (savedAtFirst bytes) =
      (.ok (), savedAtFirst bytes) := rfl

theorem pathAt_first : pathAt "results" ⟨0⟩ = "results/stress_19700101_000000.json" := rfl

theorem pathAt_long : pathAt "results" ⟨999999999⟩ = "results/stress_19700101_000000.json" := rfl

theorem pathAt_next : pathAt "results" ⟨1000000000⟩ = "results/stress_19700101_000001.json" := rfl

theorem run_at_first (timestamp : String) : (freeCall 0 timestamp).run "results" emptyDisk =
    (.ok "results/stress_19700101_000000.json", savedAtFirst (idle timestamp).bytes) := by
  have ready : ((Disk.calls .free).makeDirectories "results").run emptyDisk =
      (.ok (), emptyDisk.put ["work", "results"] .directory) := rfl
  have found : (emptyDisk.put ["work", "results"] .directory).openFile .free
      "results/stress_19700101_000000.json" =
        .ok ⟨["work", "results", "stress_19700101_000000.json"], 0,
          (emptyDisk.put ["work", "results"] .directory).put
            ["work", "results", "stress_19700101_000000.json"] (.file 0)⟩ := rfl
  rw [← pathAt_first] at found ⊢
  exact @Call.run_of_opened (freeCall 0 timestamp) _ _ _ _ ready found fun _ => rfl

/-- The last instant of the same second; the bytes before are not looked at. -/
theorem run_before_long (bytes : List UInt8) (timestamp : String) :
    (freeCall 999999999 timestamp).run "results" (savedAtFirst bytes) =
      (.ok "results/stress_19700101_000000.json",
        (savedAtFirst bytes).fill 0 (idle timestamp).bytes) := by
  have found : (savedAtFirst bytes).openFile .free "results/stress_19700101_000000.json" =
      .ok ⟨["work", "results", "stress_19700101_000000.json"], 0, savedAtFirst bytes⟩ := rfl
  rw [← pathAt_long] at found ⊢
  exact @Call.run_of_opened (freeCall 999999999 timestamp) _ _ _ _ (ready_savedAtFirst bytes)
    found fun _ => rfl

/-- The disk after the first instant of the next second. -/
def savedAfter (bytes others : List UInt8) : Disk :=
  ((savedAtFirst bytes).put ["work", "results", "stress_19700101_000001.json"] (.file 1)).fill 1
    others

theorem run_after (bytes : List UInt8) (timestamp : String) :
    (freeCall 1000000000 timestamp).run "results" (savedAtFirst bytes) =
      (.ok "results/stress_19700101_000001.json", savedAfter bytes (idle timestamp).bytes) := by
  have found : (savedAtFirst bytes).openFile .free "results/stress_19700101_000001.json" =
      .ok ⟨["work", "results", "stress_19700101_000001.json"], 1,
        (savedAtFirst bytes).put ["work", "results", "stress_19700101_000001.json"] (.file 1)⟩ :=
    rfl
  rw [← pathAt_next] at found ⊢
  exact @Call.run_of_opened (freeCall 1000000000 timestamp) _ _ _ _ (ready_savedAtFirst bytes)
    found fun _ => rfl

theorem read_before (bytes others : List UInt8) :
    (savedAfter bytes others).read .free "results/stress_19700101_000000.json" = .ok bytes :=
  rfl

/-- Two results of the first second, which are made on a disk without any: the path of
both reads as the second one. -/
theorem each_second_keeps_its_last_result_of_two :
    let calls := [freeCall 0 "", freeCall 999999999 "1970-01-01"]
    (freeCall 0 "").Effect "results" emptyDisk (.ok "results/stress_19700101_000000.json")
      (savedAtFirst (idle "").bytes) ∧
    LastOfEachSecond "results" emptyDisk calls (saveAll "results" emptyDisk calls).1
      (saveAll "results" emptyDisk calls).2 ∧
    (saveAll "results" emptyDisk calls).2.read .free "results/stress_19700101_000000.json" =
      .ok (idle "1970-01-01").bytes := by
  intro calls
  obtain ⟨effect, whole⟩ := each_second_keeps_its_last_result
  have kept := whole "results" emptyDisk calls
  have first := effect (freeCall 0 "") "results" emptyDisk
  rw [run_at_first] at first
  refine ⟨first, kept, ?_⟩
  have receipts : (saveAll "results" emptyDisk calls).1 =
      [⟨freeCall 0 "", .ok "results/stress_19700101_000000.json",
          (freeCall 0 "").writing? "results" emptyDisk⟩,
        ⟨freeCall 999999999 "1970-01-01", .ok "results/stress_19700101_000000.json",
          (freeCall 999999999 "1970-01-01").writing? "results"
            (savedAtFirst (idle "").bytes)⟩] := by
    simp only [calls, saveAll, run_at_first, run_before_long]
  rw [receipts] at kept
  obtain ⟨-, _, own⟩ := kept.told _ List.mem_cons_self _ rfl
  obtain ⟨-, number, other⟩ := kept.told _ (List.mem_cons_of_mem _ List.mem_cons_self) _ rfl
  obtain ⟨final, left, isLast, written, -, reads⟩ :=
    kept.ofSecond (kept.apart isPlain_emptyDisk) _ List.mem_cons_self _ rfl
  dsimp only at own other
  rw [own, other] at isLast
  simp only [Receipt.opensIn, freeCall, Instant.seconds, Option.isSome_some, Bool.true_and,
    Nat.zero_div, decide_true, Nat.reduceDiv, List.filter_cons_of_pos, List.filter_nil,
    List.getLast?_cons_cons, List.getLast?_singleton, Option.some.injEq] at isLast
  subst isLast
  cases written
  exact reads

/-- A result goes when another one is saved in the same second.  And a directory that
held a result has two of them after one more, of the next second. -/
theorem results_of_one_second_are_replaced :
    (∃ made later,
      (freeCall 0 "1970-01-01T00:00:00Z").run "results" emptyDisk =
        (.ok "results/stress_19700101_000000.json", made) ∧
      (freeCall 999999999 "1970-01-01T00:00:00.999999999Z").run "results" made =
        (.ok "results/stress_19700101_000000.json", later) ∧
      later.read .free "results/stress_19700101_000000.json" ≠
        .ok (idle "1970-01-01T00:00:00Z").bytes) ∧
    ∃ later,
      (freeCall 1000000000 "").run "results" (savedAtFirst (idle "").bytes) =
        (.ok "results/stress_19700101_000001.json", later) ∧
      later.read .free "results/stress_19700101_000000.json" = .ok (idle "").bytes ∧
      later.read .free "results/stress_19700101_000001.json" = .ok (idle "").bytes := by
  refine ⟨⟨_, _, run_at_first _, run_before_long _ _, ?_⟩, _, run_after _ _, ?_, ?_⟩
  · rw [read_of_run (run_before_long _ _)]
    intro same
    have texts := bytes_eq_iff.mp (Except.ok.inj same)
    exact absurd (timestamp_eq_of_text_eq texts) (by decide)
  · exact read_before _ _
  · have reads := read_of_run (run_after (idle "").bytes "")
    exact reads

end ReservationLoad.Results

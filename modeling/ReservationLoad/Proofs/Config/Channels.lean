import ReservationLoad.Proofs.Config.Formats
import ReservationLoad.Proofs.Config.Options
import ReservationLoad.Proofs.Config.Variables
import ReservationLoad.Proofs.Toml.Additions
import ReservationLoad.Proofs.Toml.Places
import ReservationLoad.Url.Reader

/-!
# The channels of a numeric setting

A numeric setting can be given by an option, by a variable and in a file, and
each of the three has a reader of its own.  As long as the setting is given
only once it makes no difference by which of them.  A file is the only one that
does not take every word: above 63 bits it is refused as a whole.
-/

namespace ReservationLoad.Config

open Toml (Entries Node)

namespace Variable

/-- The table that the setting belongs to in a document. -/
def table : Variable → String
  | timeoutMs => "target"
  | workers => "load"
  | totalRequests => "load"
  | logEvery => "load"
  | seed => "scenario"

/-- Its key in that table. -/
def key : Variable → String
  | timeoutMs => "timeout_ms"
  | workers => "workers"
  | totalRequests => "total_requests"
  | logEvery => "log_every"
  | seed => "seed"

/-- The environment with the decimal digits of a value in the variable. -/
def put (which : Variable) (value : UInt64) (lookup : Lookup) : Lookup :=
  fun name => if name = which.name then some (toString value.toNat) else lookup name

/-- The line of a document that defines the setting. -/
def line (which : Variable) (value : UInt64) : String :=
  which.key ++ " = " ++ toString value.toNat ++ "\n"

/-- What a layer says, with a value for the setting. -/
def say (which : Variable) (value : UInt64) (layer : Layer) : Layer where
  url := layer.url
  number other := if other = which then some value else layer.number other

theorem name_ne_urlVariable (which : Variable) : urlVariable ≠ which.name := by
  cases which <;> decide

theorem name_injective {which other : Variable} (same : other.name = which.name) :
    other = which := by
  revert same
  cases which <;> cases other <;> decide

theorem place_injective (which other : Variable) :
    (other.table = which.table ∧ other.key = which.key) ↔ other = which := by
  cases which <;> cases other <;> decide

theorem read_toString (which : Variable) (value : UInt64) :
    which.read (toString value.toNat) = .ok value := by
  have stands : StandsFor (String.ofList ([] ++ (toString value.toNat).toList ++ []))
      value.toNat := standsFor_ofNat _ (List.forall_mem_nil _) (List.forall_mem_nil _)
  rw [List.nil_append, List.append_nil, String.ofList_toList] at stands
  exact which.read_eq_ok_iff.mpr stands

end Variable

variable {which : Variable} {v : UInt64} {lookup lookup' : Lookup}
  {arguments arguments' : CommandLine.Arguments} {readFile readFile' : FileReader}
  {file file' : Layer} {readUrl : Url.Parser}

/-! ## Equal decisions -/

theorem Variable.Legible.congr (same : lookup which.name = lookup' which.name)
    (legible : which.Legible lookup) : which.Legible lookup' :=
  fun raw found => legible raw (same.trans found)

/-- The same is loaded where the layers decide on the same and the same variable
is the first that is illegible. -/
theorem effective_congr (read : Layer.ofGivenFile readFile arguments.config = .ok file)
    (read' : Layer.ofGivenFile readFile' arguments'.config = .ok file')
    (environment : ∀ which : Variable, lookup which.name = lookup' which.name ∨
      which.Legible lookup ∧ which.Legible lookup')
    (same : decided arguments (.ofEnvironment lookup) file =
      decided arguments' (.ofEnvironment lookup') file') :
    effective readUrl readFile lookup arguments =
      effective readUrl readFile' lookup' arguments' := by
  have legible' : ∀ which : Variable, which.Legible lookup → which.Legible lookup' := by
    intro which legible
    rcases environment which with same | ⟨-, legible'⟩
    · exact legible.congr same
    · exact legible'
  rcases legible_or_exists_first lookup Variable.all with
    all | ⟨before, which, after, raw, cause, order, earlier, found, flawed⟩
  · have legible : ∀ which : Variable, which.Legible lookup := fun which => all which which.mem_all
    have layers := Layer.ofConfig_merged arguments lookup file
    rw [effective_of_decided read legible (Layer.toldBy_iff.mpr rfl) layers,
      effective_of_decided read' (fun which => legible' which (legible which))
        (Layer.toldBy_iff.mpr rfl) (layers.trans same)]
  · have found' : lookup' which.name = some raw := by
      rcases environment which with same | ⟨legible, -⟩
      · rw [← same, found]
      · obtain ⟨value, stands⟩ := legible raw found
        exact absurd stands (exists_isFlawed_iff.mp ⟨cause, flawed⟩ value)
    rw [effective_of_refused (.illegible read order earlier found flawed),
      effective_of_refused (.illegible read' order
        (fun which inside => legible' which (earlier which inside)) found' flawed)]

theorem effective_of_unread {fault : Fault}
    (read : Layer.ofGivenFile readFile arguments.config = .error fault) :
    effective readUrl readFile lookup arguments = .error fault :=
  effective_of_refused (.unread read)

/-! ## The variable -/

theorem number_put (other : Variable) :
    (Layer.ofEnvironment (which.put v lookup)).number other =
      if other = which then some v else (Layer.ofEnvironment lookup).number other := by
  change (which.put v lookup other.name).bind _ = _
  by_cases same : other = which
  · rw [same, if_pos rfl, Variable.put, if_pos rfl, Option.bind_some, which.read_toString]
    rfl
  · rw [if_neg same, Variable.put, if_neg fun named => same (Variable.name_injective named)]
    rfl

theorem decided_put (unpassed : which.Unpassed arguments) :
    decided arguments (.ofEnvironment (which.put v lookup)) file =
      decided (which.pass v arguments) (.ofEnvironment lookup) file := by
  apply Layer.ext
  · change arguments.url.or ((which.put v lookup urlVariable).or _) =
      (which.pass v arguments).url.or ((lookup urlVariable).or _)
    rw [Variable.put, if_neg which.name_ne_urlVariable, Variable.url_pass]
  · funext other
    change ((Layer.ofArguments arguments).number other).or
        (((Layer.ofEnvironment (which.put v lookup)).number other).or _) =
      ((Layer.ofArguments (which.pass v arguments)).number other).or
        (((Layer.ofEnvironment lookup).number other).or _)
    rw [number_put, Variable.number_pass]
    by_cases same : other = which
    · rw [if_pos same, if_pos same, same, unpassed, Option.none_or, Option.some_or, Option.some_or]
    · rw [if_neg same, if_neg same]

/-- Given by its variable, a setting leads to what it leads to by its option. -/
theorem effective_put (unpassed : which.Unpassed arguments) (unset : lookup which.name = none) :
    effective readUrl readFile (which.put v lookup) arguments =
      effective readUrl readFile lookup (which.pass v arguments) := by
  have config : (which.pass v arguments).config = arguments.config := Variable.config_pass
  cases read : Layer.ofGivenFile readFile arguments.config with
  | error fault => rw [effective_of_unread read, effective_of_unread (config ▸ read)]
  | ok file =>
      refine effective_congr read (config ▸ read) (fun other => ?_) (decided_put unpassed)
      by_cases same : other = which
      · refine .inr ⟨fun raw found => ⟨v, ?_⟩, fun raw found => ?_⟩
        · rw [same, Variable.put, if_pos rfl] at found
          rw [← Option.some.inj found]
          exact other.read_eq_ok_iff.mp (other.read_toString v)
        · rw [same, unset] at found
          cases found
      · exact .inl (if_neg fun named => same (Variable.name_injective named))

/-! ## The file -/

theorem decided_say (unpassed : which.Unpassed arguments) (unset : lookup which.name = none)
    (config : Option String) :
    decided { arguments with config } (.ofEnvironment lookup) (which.say v file) =
      decided (which.pass v arguments) (.ofEnvironment lookup) file := by
  apply Layer.ext
  · change arguments.url.or _ = (which.pass v arguments).url.or _
    rw [Variable.url_pass]
    rfl
  · funext other
    change ((Layer.ofArguments arguments).number other).or (((Layer.ofEnvironment lookup).number
        other).or (((which.say v file).number other).or _)) =
      ((Layer.ofArguments (which.pass v arguments)).number other).or
        (((Layer.ofEnvironment lookup).number other).or ((file.number other).or _))
    rw [Variable.number_pass, Variable.say]
    by_cases same : other = which
    · have silent : (Layer.ofEnvironment lookup).number which = none := by
        change (lookup which.name).bind _ = none
        rw [unset, Option.bind_none]
      rw [if_pos same, same, unpassed, silent]
      simp only [if_true, Option.none_or, Option.some_or]
    · rw [if_neg same]
      simp only [if_neg same]

/-- Given in the file, a setting leads to what it leads to by its option. -/
theorem effective_say (unpassed : which.Unpassed arguments) (unset : lookup which.name = none)
    {path : String} (read : Layer.ofGivenFile readFile' (some path) =
      (Layer.ofGivenFile readFile arguments.config).map (which.say v)) :
    effective readUrl readFile' lookup { arguments with config := some path } =
      effective readUrl readFile lookup (which.pass v arguments) := by
  have config : (which.pass v arguments).config = arguments.config := Variable.config_pass
  cases base : Layer.ofGivenFile readFile arguments.config with
  | error fault =>
      have unread : effective readUrl readFile lookup (which.pass v arguments) = .error fault :=
        effective_of_unread (config ▸ base)
      rw [base] at read
      rw [unread]
      exact effective_of_unread read
  | ok file =>
      rw [base] at read
      exact effective_congr read (config ▸ base) (fun _ => .inl rfl)
        (decided_say unpassed unset _)

/-! ## Documents -/

/-- What entries say, if they fit. -/
def Layer.ofEntries (entries : Entries) : Except FileFault Layer :=
  match Wire.fault? (Toml.fitShape (Wire.Document.shape Config) (.inline entries)) with
  | some cause => .error (.misfit cause)
  | none => .ok (ofDocument (.inline entries))

theorem Layer.ofText_of_read {text : String} {table : Toml.Table}
    (read : Toml.Table.read text = some table) : ofText text = ofEntries table.entries := by
  rw [ofText, read, ofEntries]
  simp only
  cases Toml.fitShape (Wire.Document.shape Config) (.inline table.entries) <;> rfl

/-- The members of the documents of a type. -/
def membersOf (α : Type) [Wire.Document α] : Wire.Members :=
  match Wire.Document.shape α with
  | .record _ members => members
  | _ => .nil

/-- Documents know the table and the key of every setting, and what stands behind
the key has to be a number of 64 bits. -/
theorem Variable.exists_member (which : Variable) : ∃ record members width,
    (Toml.memberFits (membersOf Config)).find? (·.name == which.table) =
        some ⟨which.table, true, Toml.fitShape (.record record members)⟩ ∧
      (Toml.memberFits members).find? (·.name == which.key) =
        some ⟨which.key, true, Toml.fitNatural width⟩ ∧
      members.lenient = true ∧ width.limit = UInt64.size := by
  cases which with
  | timeoutMs => exact ⟨"TargetConfig", membersOf TargetConfig, .word64, rfl, rfl, rfl, rfl⟩
  | workers => exact ⟨"LoadConfig", membersOf LoadConfig, .count, rfl, rfl, rfl, rfl⟩
  | totalRequests => exact ⟨"LoadConfig", membersOf LoadConfig, .word64, rfl, rfl, rfl, rfl⟩
  | logEvery => exact ⟨"LoadConfig", membersOf LoadConfig, .word64, rfl, rfl, rfl, rfl⟩
  | seed => exact ⟨"ScenarioConfig", membersOf ScenarioConfig, .word64, rfl, rfl, rfl, rfl⟩

section Additions

variable {bare full : Entries}
  (adds : Toml.AddsIn which.table which.key (.scalar (.whole v.toNat)) bare full)
include adds

theorem node?_of_adds (α : Type) [Wire.Document α] (table key : String) :
    node? α (.inline full) table key =
      if table = which.table ∧ key = which.key then some (.scalar (.whole v.toNat))
      else node? α (.inline bare) table key :=
  adds.member? _ _ _ _

theorem Variable.node?_of_adds (other : Variable) :
    other.node? (.inline full) =
      if other = which then some (.scalar (.whole v.toNat)) else other.node? (.inline bare) := by
  have place := which.place_injective other
  cases other <;> exact (Config.node?_of_adds adds _ _ _).trans (if_congr place rfl rfl)

theorem ofDocument_of_adds :
    Layer.ofDocument (.inline full) = which.say v (Layer.ofDocument (.inline bare)) := by
  apply Layer.ext
  · have other : ¬("target" = which.table ∧ "url" = which.key) := by cases which <;> decide
    change (node? TargetConfig _ "target" "url").bind Node.text? = _
    rw [node?_of_adds adds, if_neg other]
    rfl
  · funext other
    change (other.node? (.inline full)).bind Node.natural? =
      if other = which then some v else (other.node? (.inline bare)).bind Node.natural?
    rw [Variable.node?_of_adds adds]
    by_cases same : other = which
    · rw [if_pos same, if_pos same]
      exact congrArg some UInt64.ofNat_toNat
    · rw [if_neg same, if_neg same]

theorem fault?_of_adds :
    Wire.fault? (Toml.fitShape (Wire.Document.shape Config) (.inline full)) =
      Wire.fault? (Toml.fitShape (Wire.Document.shape Config) (.inline bare)) := by
  obtain ⟨record, members, width, table, member, lenient, wide⟩ := which.exists_member
  have fits : Toml.fitNatural width (.scalar (.whole v.toNat)) = .ok (.natural v) :=
    Toml.fitNatural_nodeOf wide v
  refine adds.fault?_eq rfl lenient table ?_
  rw [Toml.entryFault?_eq member, fits]
  rfl

/-- One setting more is said by the document with its key, and nothing is wrong
with it that was not before. -/
theorem Layer.ofEntries_of_adds :
    Layer.ofEntries full = (Layer.ofEntries bare).map (which.say v) := by
  rw [ofEntries, ofEntries, fault?_of_adds adds, ofDocument_of_adds adds]
  cases Wire.fault? (Toml.fitShape (Wire.Document.shape Config) (.inline bare)) <;> rfl

end Additions

/-! ## Files -/

/-- Does a file hold this text? -/
def Holds (readFile : FileReader) (path text : String) : Prop :=
  readFile path = .ok text.toUTF8.data.toList

/-- Does the file that is given, if one is, hold a document with these entries?
Without a file there are none. -/
def Gives (readFile : FileReader) : Option String → Entries → Prop
  | none, entries => entries = []
  | some path, entries => ∃ text table, Holds readFile path text ∧
      Toml.Table.read text = some table ∧ table.entries = entries

variable {path text : String}

theorem Layer.ofGivenFile_of_holds (holds : Holds readFile path text) :
    Layer.ofGivenFile readFile (some path) = (Layer.ofText text).mapError (.badFile path) := by
  have decoded : String.fromUTF8? ⟨text.toUTF8.data.toList.toArray⟩ = some text := by
    rw [Array.toArray_toList]
    exact dif_pos text.isValidUTF8
  rw [ofGivenFile, ofFile, holds]
  simp only [decoded]

theorem Layer.ofGivenFile_of_gives {config : Option String} {entries : Entries}
    (gives : Gives readFile config entries) (same : ∀ other ∈ config, other = path) :
    Layer.ofGivenFile readFile config = (Layer.ofEntries entries).mapError (.badFile path) := by
  cases config with
  | none =>
      cases gives
      have nothing : ofDocument (.inline []) = silent := by
        apply Layer.ext
        · rfl
        · funext which
          cases which <;> rfl
      exact congrArg Except.ok nothing.symm
  | some other =>
      obtain ⟨text, table, holds, read, rfl⟩ := gives
      cases same other rfl
      rw [ofGivenFile_of_holds holds, ofText_of_read read]

theorem mapError_map {ε ε' α : Type} (result : Except ε α) (next : α → α) (cause : ε → ε') :
    (result.map next).mapError cause = (result.mapError cause).map next := by
  cases result <;> rfl

/-- Given by its key in the file, a setting leads to what it leads to by its
option. -/
theorem effective_of_adds (unpassed : which.Unpassed arguments) (unset : lookup which.name = none)
    {bare full : Entries} (base : Gives readFile arguments.config bare)
    (given : Gives readFile' (some path) full) (same : ∀ other ∈ arguments.config, other = path)
    (adds : Toml.AddsIn which.table which.key (.scalar (.whole v.toNat)) bare full) :
    effective readUrl readFile' lookup { arguments with config := some path } =
      effective readUrl readFile lookup (which.pass v arguments) := by
  apply effective_say unpassed unset
  have only : ∀ other ∈ some path, other = path := by
    rintro _ ⟨⟩
    rfl
  rw [Layer.ofGivenFile_of_gives base same, Layer.ofGivenFile_of_gives given only,
    Layer.ofEntries_of_adds adds, mapError_map]

/-- A file in which a value is a number of more than 63 bits is refused. -/
theorem effective_of_tooLarge (large : 0x8000000000000000 ≤ v.toNat)
    (holds : Holds readFile path text) {rest : List Char} (closes : Toml.Closes rest)
    (place : Toml.PlaceIn text ((toString v.toNat).toList ++ rest)) :
    effective readUrl readFile lookup { arguments with config := some path } =
      .error (.badFile path .malformed) := by
  have malformed : Toml.Table.read text = none := by
    rw [Decimal.toList_toString] at place
    exact Toml.Table.read_of_place place (Toml.unreadable_ofNat large closes)
  apply effective_of_unread
  rw [Layer.ofGivenFile_of_holds holds, Layer.ofText, malformed]
  rfl

/-! ## Lines of a file -/

/-- The text of a draft with further lines, the last of which defines the
setting. -/
def Variable.textWith (which : Variable) (value : UInt64) (draft : Toml.Draft)
    (lines : List Toml.Line) : String :=
  draft.text ++ String.ofList (lines.flatMap Toml.Line.chars) ++ which.line value

theorem Variable.textWith_eq (which : Variable) (v : UInt64) (draft : Toml.Draft)
    (lines : List Toml.Line) :
    which.textWith v draft lines = String.ofList
      ((draft.lines ++ lines).flatMap Toml.Line.chars ++ Toml.numberLine which.key v.toNat) := by
  have bare : Toml.writtenKey which.key = which.key.toList := by cases which <;> decide
  have line : which.line v = String.ofList (Toml.numberLine which.key v.toNat) := by
    apply String.toList_inj.mp
    rw [Variable.line, Toml.numberLine, bare]
    simp only [String.toList_append, String.toList_ofList, Decimal.toList_toString]
    simp
  rw [textWith, line, Toml.Draft.text, List.flatMap_append, String.ofList_append,
    String.ofList_append]

theorem Gives.of_small {draft : Toml.Draft} {lines : List Toml.Line} (small : v.toNat < 2 ^ 63)
    (opens : draft.Opens which.table which.key lines)
    (holds : Holds readFile path (which.textWith v draft lines)) :
    ∃ full, Gives readFile (some path) full ∧
      Toml.AddsIn which.table which.key (.scalar (.whole v.toNat)) draft.entries full := by
  have opens : draft.Opens which.table (Toml.Definition.ofWhole which.key v.toNat small).key
      lines := opens
  obtain ⟨longer, same, adds⟩ := Toml.Draft.exists_longer opens
  refine ⟨longer.entries, ⟨_, ⟨.header, longer.entries⟩, holds, ?_, rfl⟩, adds⟩
  have text : which.textWith v draft lines = longer.text := by
    have added : ([.definition (.ofWhole which.key v.toNat small)] : List Toml.Line).flatMap
        Toml.Line.chars = Toml.numberLine which.key v.toNat := List.flatMap_singleton ..
    rw [Variable.textWith_eq, Toml.Draft.text, same]
    generalize draft.lines ++ lines = front
    rw [List.flatMap_append, added]
  rw [text, longer.read_text]

/-! ## Agreement -/

/-- All channels of a setting agree on a value.  What its option leads to is what
`effective` makes of the arguments that pass the value. -/
structure Agree (readUrl : Url.Parser) (which : Variable) (v : UInt64) (readFile : FileReader)
    (lookup : Lookup) (arguments : CommandLine.Arguments) : Prop where
  /-- The option can be put wherever the arguments in front are complete. -/
  option : ∀ front behind flag, CommandLine.read (front ++ behind) = .ok arguments →
    (∃ so, CommandLine.read front = .ok so) → "--" ∉ front → flag ∈ which.flags v →
      CommandLine.read (front ++ flag ++ behind) = .ok (which.pass v arguments)
  environment : effective readUrl readFile (which.put v lookup) arguments =
    effective readUrl readFile lookup (which.pass v arguments)
  /-- The document has the setting as one key more, however it is written. -/
  file : ∀ readFile' path bare full, Gives readFile arguments.config bare →
    Gives readFile' (some path) full → (∀ other ∈ arguments.config, other = path) →
      Toml.AddsIn which.table which.key (.scalar (.whole v.toNat)) bare full →
        effective readUrl readFile' lookup { arguments with config := some path } =
          effective readUrl readFile lookup (which.pass v arguments)
  /-- The digits stand anywhere in the document where a value has to be. -/
  tooLarge : 2 ^ 63 ≤ v.toNat → ∀ readFile' path text rest, Holds readFile' path text →
    Toml.Closes rest → Toml.PlaceIn text ((toString v.toNat).toList ++ rest) →
      effective readUrl readFile' lookup { arguments with config := some path } =
        .error (.badFile path .malformed)
  /-- The document has one line more. -/
  line : ∀ readFile' path draft lines, Gives readFile arguments.config draft.entries →
    draft.Opens which.table which.key lines →
      Holds readFile' path (which.textWith v draft lines) →
        (∀ other ∈ arguments.config, other = path) →
          effective readUrl readFile' lookup { arguments with config := some path } =
            if v.toNat < 2 ^ 63 then effective readUrl readFile lookup (which.pass v arguments)
            else .error (.badFile path .malformed)

/-- As long as nothing else gives a setting, it makes no difference whether its
option, its variable or the file gives it a value, whatever else is given; only
a file never gives it one of more than 63 bits. -/
theorem channels_agree (readUrl : Url.Parser) (which : Variable) (v : UInt64)
    (readFile : FileReader) (lookup : Lookup) (arguments : CommandLine.Arguments)
    (unpassed : which.Unpassed arguments) (unset : lookup which.name = none) :
    Agree readUrl which v readFile lookup arguments where
  option _ _ _ read complete noEnd written :=
    CommandLine.read_of_flag read unpassed complete noEnd written
  environment := effective_put unpassed unset
  file _ _ _ _ base given same adds := effective_of_adds unpassed unset base given same adds
  tooLarge large _ _ _ _ holds closes place := effective_of_tooLarge large holds closes place
  line readFile' path draft lines base opens holds same := by
    split
    next small =>
      obtain ⟨full, given, adds⟩ := Gives.of_small small opens holds
      exact effective_of_adds unpassed unset base given same adds
    next large =>
      have place : Toml.PlaceIn (which.textWith v draft lines)
          ((toString v.toNat).toList ++ ['\n']) := by
        rw [Variable.textWith_eq, Decimal.toList_toString]
        exact Toml.placeIn_numberLine _ _ _
      exact effective_of_tooLarge (Nat.not_lt.mp large) holds
        (Toml.closes_cons (by decide) []) place

/-- The greatest number that a file can give, and the one behind it, which only
the option and the variable give. -/
theorem channels_agree_around_the_limit :
    CommandLine.read
        ["--config=stress.toml", "--workers", "9223372036854775808", "--seed", "7"] =
      .ok { config := some "stress.toml", seed := some 7, workers := some 9223372036854775808 } ∧
    (effective Url.read (fun _ => .ok "[load]\n".toUTF8.data.toList)
        (Variable.workers.put 9223372036854775808 fun _ => none)
        { config := some "stress.toml", seed := some 7 }).toOption =
      some { load := { workers := 9223372036854775808 }, scenario := { seed := some 7 } } ∧
    (effective Url.read (fun _ => .ok "[load]\nworkers = 9223372036854775807\n".toUTF8.data.toList)
        (fun _ => none) { config := some "stress.toml", seed := some 7 }).toOption =
      some { load := { workers := 9223372036854775807 }, scenario := { seed := some 7 } } ∧
    effective Url.read (fun _ => .ok "[load]\nworkers = 9223372036854775808\n".toUTF8.data.toList)
        (fun _ => none) { config := some "stress.toml", seed := some 7 } =
      .error (.badFile "stress.toml" .malformed) := by
  have below := channels_agree Url.read .workers 9223372036854775807
    (fun _ => .ok "[load]\n".toUTF8.data.toList) (fun _ => none)
    { config := some "stress.toml", seed := some 7 } rfl rfl
  have above := channels_agree Url.read .workers 9223372036854775808
    (fun _ => .ok "[load]\n".toUTF8.data.toList) (fun _ => none)
    { config := some "stress.toml", seed := some 7 } rfl rfl
  let draft : Toml.Draft := ⟨[], [⟨"load", [], .nil⟩], by decide⟩
  have base : Gives (fun _ => .ok "[load]\n".toUTF8.data.toList) (some "stress.toml")
      draft.entries := ⟨draft.text, ⟨.header, draft.entries⟩, rfl, draft.read_text, rfl⟩
  have opens : draft.Opens "load" "workers" [] :=
    .oldTable (List.nil_append _).symm rfl (by decide)
  have same : ∀ other ∈ some "stress.toml", other = "stress.toml" := by
    rintro _ ⟨⟩
    rfl
  have textBelow : Variable.workers.textWith 9223372036854775807 draft [] =
      "[load]\nworkers = 9223372036854775807\n" := by decide +kernel
  have textAbove : Variable.workers.textWith 9223372036854775808 draft [] =
      "[load]\nworkers = 9223372036854775808\n" := by decide +kernel
  refine ⟨?_, ?_, ?_, ?_⟩
  · exact above.option ["--config=stress.toml"] ["--seed", "7"] _ rfl ⟨_, rfl⟩ (by decide)
      (List.mem_cons_of_mem _ List.mem_cons_self)
  · rw [above.environment]
    decide +kernel
  · rw [below.line _ _ draft [] base opens (by rw [textBelow, Holds]) same]
    decide +kernel
  · rw [above.line _ _ draft [] base opens (by rw [textAbove, Holds]) same]
    rfl

end ReservationLoad.Config

import ReservationLoad.Proofs.Config.Partial
import ReservationLoad.Proofs.Json.RoundTrip
import ReservationLoad.Proofs.Toml.Draft
import ReservationLoad.Proofs.Toml.Members

/-!
# Partial configurations in both formats

A partial configuration can be written in TOML and in JSON, with its tables and
keys in any order and among others that no configuration knows.  However it is
written, it reads as the same configuration: the given settings, and the
built-in ones where nothing is given.
-/

namespace ReservationLoad

open Wire

/-! ## TOML -/

namespace PartialConfig

/-- Every number has at most 63 bits. -/
def Settings.Writable (settings : Settings) : Prop :=
  ∀ ⦃key : String⦄ ⦃n : UInt64⦄, (key, some (.whole n)) ∈ settings →
    n.toNat < 0x8000000000000000

def Writable (p : PartialConfig) : Prop :=
  ∀ ⦃name : String⦄ ⦃settings : Settings⦄, (name, some settings) ∈ p.tables → settings.Writable

end PartialConfig

namespace Toml

open PartialConfig (Settings writtenTable)

/-- A setting as a node. -/
def nodeOf : Setting → Node
  | .text value => .scalar (.text value)
  | .whole value => .scalar (.whole value.toNat)

def shows (_ : String) (setting : Option Setting) (found : Option Node) : Prop :=
  found = setting.map nodeOf

theorem fitNatural_nodeOf {width : Width} (full : width.limit = UInt64.size) (n : UInt64) :
    fitNatural width (nodeOf (.whole n)) = .ok (.natural n) := by
  have small : (n.toNat : Int) < width.limit := by
    rw [full]
    exact Int.ofNat_lt.mpr n.toNat_lt
  rw [nodeOf, fitNatural, if_pos ⟨Int.natCast_nonneg _, small⟩, Int.toNat_natCast,
    UInt64.ofNat_toNat]

theorem understands : PartialConfig.Understands Node.entries? shows fitShape where
  record distinct lenient table reads := fitShape_record_eq distinct lenient table reads
  url {url found} shown := by
    rw [shown, Option.map_map]
    refine PartialConfig.fits_of_forall ?_ url
    exact fun _ => rfl
  number {key width number found} _ full shown := by
    rw [shown, Option.map_map]
    exact PartialConfig.fits_of_forall (fitNatural_nodeOf full) number
  seed {seed found} shown := by
    rw [shown, Option.map_map]
    exact PartialConfig.fits_of_forall (fitNatural_nodeOf rfl) seed

theorem exists_definition {key : String} {setting : Setting}
    (small : ∀ n, setting = .whole n → n.toNat < 0x8000000000000000) :
    ∃ d : Definition, d.entry = (key, nodeOf setting) := by
  cases setting with
  | text value => exact ⟨.ofText key value, rfl⟩
  | whole n => exact ⟨.ofWhole key n.toNat (small n rfl), rfl⟩

theorem exists_definitions {settings : Settings} (writable : settings.Writable) :
    ∃ definitions : List Definition, definitions.map Definition.entry =
      present (settings.map fun setting => (setting.1, setting.2.map nodeOf)) := by
  induction settings with
  | nil => exact ⟨[], rfl⟩
  | cons first settings ih =>
      obtain ⟨definitions, entries⟩ := ih fun _ _ inside => writable (List.mem_cons_of_mem _ inside)
      rcases first with ⟨key, _ | setting⟩
      · exact ⟨definitions, entries⟩
      · obtain ⟨d, entry⟩ : ∃ d : Definition, d.entry = (key, nodeOf setting) := by
          apply exists_definition
          rintro n rfl
          exact writable List.mem_cons_self
        exact ⟨d :: definitions, congrArg₂ List.cons entry entries⟩

theorem exists_section {name : String} {settings : Settings}
    (distinct : (settings.map Prod.fst).Nodup) (writable : settings.Writable) :
    ∃ s : Section,
      s.entry = (name, writtenTable (.table .header) nodeOf settings) := by
  obtain ⟨definitions, entries⟩ := exists_definitions writable
  have keys : definitions.map Definition.key = (present
      (settings.map fun setting => (setting.1, setting.2.map nodeOf))).map Prod.fst := by
    rw [← entries, List.map_map]
    rfl
  have once : (definitions.map Definition.key).Nodup := by
    rw [keys]
    refine List.Nodup.sublist (sublist_names_present _) ?_
    rw [List.map_map]
    exact distinct
  refine ⟨⟨name, definitions, once⟩, ?_⟩
  rw [Section.entry, Section.entries, entries]
  rfl

theorem exists_sections {tables : List (String × Option Settings)}
    (distinct : ∀ ⦃name : String⦄ ⦃settings : Settings⦄,
      (name, some settings) ∈ tables → (settings.map Prod.fst).Nodup)
    (writable : ∀ ⦃name : String⦄ ⦃settings : Settings⦄,
      (name, some settings) ∈ tables → settings.Writable) :
    ∃ sections : List Section, sections.map Section.entry = present (tables.map fun part =>
      (part.1, part.2.map (writtenTable (.table .header) nodeOf))) := by
  induction tables with
  | nil => exact ⟨[], rfl⟩
  | cons first tables ih =>
      obtain ⟨sections, entries⟩ := ih (fun _ _ inside => distinct (List.mem_cons_of_mem _ inside))
        (fun _ _ inside => writable (List.mem_cons_of_mem _ inside))
      rcases first with ⟨name, _ | settings⟩
      · exact ⟨sections, entries⟩
      · obtain ⟨s, entry⟩ : ∃ s : Section,
            s.entry = (name, writtenTable (.table .header) nodeOf settings) :=
          exists_section (distinct List.mem_cons_self) (writable List.mem_cons_self)
        exact ⟨s :: sections, congrArg₂ List.cons entry entries⟩

/-- Every partial configuration has a draft. -/
theorem exists_draft {p : PartialConfig} (writable : p.Writable) :
    ∃ draft : Draft, draft.entries = p.written (.table .header) nodeOf := by
  obtain ⟨sections, entries⟩ := exists_sections (fun _ _ => PartialConfig.distinct_settings) writable
  have names : sections.map Section.name = (p.written (.table .header) nodeOf).map Prod.fst := by
    rw [PartialConfig.written, ← entries, List.map_map]
    rfl
  have once : (sections.map Section.name).Nodup := by
    rw [names]
    refine List.Nodup.sublist (sublist_names_present _) ?_
    rw [List.map_map]
    exact p.distinct_tables
  exact ⟨⟨[], sections, once⟩, entries⟩

/-- Every text whose table states a partial configuration reads as the filled
one. -/
theorem readDocument_of_states {p : PartialConfig} {text : String} {table : Table}
    (read : Table.read text = some table)
    (states : p.States Node.entries? shows table.entries) :
    readDocument Config text = .ok p.fill := by
  have fitted : fitShape (Document.shape Config) (.inline table.entries) = .ok p.datum :=
    understands.config rfl states
  simp only [readDocument, readDatum, read, fitted, ok_bind, p.ofDatum?_datum]
  rfl

end Toml

/-! ## JSON -/

namespace Json

open PartialConfig (Settings writtenTable)

/-- A setting as a value. -/
def valueOf : Setting → Value
  | .text value => .text value
  | .whole value => .number (toString value.toNat)

def Value.members? : Value → Option (List (String × Value))
  | .object members => some members
  | _ => none

/-- A setting is written as its value.  The built-in seed, which is none, may also
be spelled out. -/
def shows (key : String) (setting : Option Setting) (found : Option Value) : Prop :=
  found = setting.map valueOf ∨ key = "seed" ∧ setting = none ∧ found = some .null

theorem understands : PartialConfig.Understands Value.members? shows fitShape where
  record {record members table entries values} distinct lenient object reads := by
    cases table with
    | object others =>
        cases object
        exact fitShape_object_eq distinct lenient reads
    | _ => cases object
  url {url found} shown := by
    rcases shown with rfl | ⟨other, -⟩
    · rw [Option.map_map]
      refine PartialConfig.fits_of_forall ?_ url
      exact fun _ => rfl
    · exact absurd other (by decide)
  number {key width number found} other full shown := by
    rcases shown with rfl | ⟨same, -⟩
    · rw [Option.map_map]
      refine PartialConfig.fits_of_forall (fun n => fit_natural ?_) number
      rw [full]
      exact n.toNat_lt
    · exact absurd same other
  seed {seed found} shown := by
    rcases shown with rfl | ⟨-, missing, rfl⟩
    · rw [Option.map_map]
      refine PartialConfig.fits_of_forall (fun n => fitOptional_of_fitShape (fit_natural ?_)) seed
      exact n.toNat_lt
    · cases Option.map_eq_none_iff.mp missing
      exact ⟨some .absent, .some rfl, rfl⟩

theorem wellFormed_valueOf (setting : Setting) : (valueOf setting).WellFormed := by
  cases setting with
  | text value => trivial
  | whole n => exact isNumeral_natural n.toNat

theorem membersWellFormed_present {α : Type} {write : α → Value}
    (wellFormed : ∀ given, (write given).WellFormed) : ∀ settings : List (String × Option α),
      Value.MembersWellFormed
        (present (settings.map fun setting => (setting.1, setting.2.map write)))
  | [] => trivial
  | (_, none) :: settings => membersWellFormed_present wellFormed settings
  | (_, some given) :: settings =>
    ⟨wellFormed given, membersWellFormed_present wellFormed settings⟩

theorem wellFormed_written (p : PartialConfig) :
    (Value.object (p.written .object valueOf)).WellFormed := by
  have tables : ∀ settings : Settings, (writtenTable .object valueOf settings).WellFormed :=
    membersWellFormed_present wellFormed_valueOf
  exact membersWellFormed_present tables p.tables

/-- Every text of an object that states a partial configuration reads as the
filled one. -/
theorem readDocument_of_states {p : PartialConfig} {text : String}
    {members : List (String × Value)} (isText : IsText (.object members) text)
    (states : p.States Value.members? shows members) :
    readDocument Config text = .ok p.fill := by
  have fitted : fitShape (Document.shape Config) (.object members) = .ok p.datum :=
    understands.config rfl states
  rw [readDocument, isText.readDatum_eq, fitted, ok_bind, p.ofDatum?_datum]
  rfl

end Json

/-! ## Agreement -/

namespace PartialConfig

/-- The entries of a TOML table state the partial configuration. -/
def InToml (p : PartialConfig) (entries : Toml.Entries) : Prop :=
  p.States Toml.Node.entries? Toml.shows entries

/-- The members of a JSON object state the partial configuration. -/
def InJson (p : PartialConfig) (members : List (String × Json.Value)) : Prop :=
  p.States Json.Value.members? Json.shows members

/-- Both formats can state the partial configuration, and whatever text states it
reads as the filled one: in TOML the text of every draft and every other text
whose table does, in JSON every text of an object that does. -/
structure Agrees (p : PartialConfig) : Prop where
  draft : ∃ draft : Toml.Draft, p.InToml draft.entries
  object : ∃ members text, p.InJson members ∧ Json.IsText (.object members) text
  ofDraft : ∀ draft : Toml.Draft, p.InToml draft.entries →
    Toml.readDocument Config draft.text = .ok p.fill
  ofTable : ∀ text table, Toml.Table.read text = some table → p.InToml table.entries →
    Toml.readDocument Config text = .ok p.fill
  ofObject : ∀ members text, p.InJson members → Json.IsText (.object members) text →
    Json.readDocument Config text = .ok p.fill

theorem agrees {p : PartialConfig} (writable : p.Writable) : p.Agrees where
  draft := by
    obtain ⟨draft, entries⟩ := Toml.exists_draft writable
    refine ⟨draft, ?_⟩
    rw [InToml, entries]
    apply states_written
    · exact fun _ => rfl
    · exact fun _ _ => rfl
  object := by
    have states : p.InJson (p.written .object Json.valueOf) := by
      apply states_written
      · exact fun _ => rfl
      · exact fun _ _ => .inl rfl
    exact ⟨_, _, states, Json.isText_compact (Json.wellFormed_written p)⟩
  ofDraft draft states := Toml.readDocument_of_states draft.read_text states
  ofTable _ _ read states := Toml.readDocument_of_states read states
  ofObject _ _ states isText := Json.readDocument_of_states isText states

theorem writable_empty : Writable {} := by
  intro name settings inside
  simp [tables] at inside

/-- A document without any entries states that nothing is given. -/
theorem states_empty {ν : Type} {inner? : ν → Option (List (String × ν))}
    {shows : String → Option Setting → Option ν → Prop} :
    States inner? shows ({} : PartialConfig) [] := by
  intro name settings inside
  have missing : settings = none := by
    simp only [tables, List.mem_cons, List.not_mem_nil, or_false, Prod.mk.injEq] at inside
    rcases inside with ⟨-, given⟩ | ⟨-, given⟩ | ⟨-, given⟩ <;> exact given
  rw [missing]
  exact ⟨none, rfl, .none⟩

/-- The table that spells out the settings of a target. -/
def Target.spelled (t : TargetConfig) : Target := ⟨some t.url, some t.timeoutMs⟩

def Load.spelled (l : LoadConfig) : Load :=
  ⟨some l.workers, some l.totalRequests, some l.logEvery⟩

def Scenario.spelled (s : ScenarioConfig) : Scenario := ⟨s.seed⟩

/-- Every partial configuration whose numbers have at most 63 bits reads the same
from both formats.  It makes no difference whether a table is missing, is empty,
or spells out the built-in settings, and from the empty document of either format
these are read. -/
theorem formats_agree :
    (∀ p : PartialConfig, p.Writable → p.Agrees) ∧
      (∀ p : PartialConfig,
        ({ p with target := some {} } : PartialConfig).fill =
            ({ p with target := none } : PartialConfig).fill ∧
          ({ p with target := some (.spelled Config.default.target) } : PartialConfig).fill =
            ({ p with target := none } : PartialConfig).fill) ∧
      (∀ p : PartialConfig,
        ({ p with load := some {} } : PartialConfig).fill =
            ({ p with load := none } : PartialConfig).fill ∧
          ({ p with load := some (.spelled Config.default.load) } : PartialConfig).fill =
            ({ p with load := none } : PartialConfig).fill) ∧
      (∀ p : PartialConfig,
        ({ p with scenario := some {} } : PartialConfig).fill =
            ({ p with scenario := none } : PartialConfig).fill ∧
          ({ p with scenario := some (.spelled Config.default.scenario) } : PartialConfig).fill =
            ({ p with scenario := none } : PartialConfig).fill) ∧
      Toml.readDocument Config "" = .ok Config.default ∧
      Json.readDocument Config "{}" = .ok Config.default := by
  refine ⟨fun p writable => agrees writable, fun p => ⟨rfl, rfl⟩, fun p => ⟨rfl, rfl⟩,
    fun p => ⟨rfl, rfl⟩, ?_, ?_⟩
  · exact (agrees writable_empty).ofDraft ⟨[], [], .nil⟩ states_empty
  · have isText : Json.IsText (.object []) (Json.Value.object []).compact :=
      Json.isText_compact trivial
    exact (agrees writable_empty).ofObject [] _ states_empty isText

/-- A document that begins with the last table and has a key and a table of other
names; the target has an address that needs escapes, and there is no load. -/
theorem formats_agree_among_others :
    Writable ⟨some ⟨some "\"\n\x7F", none⟩, none, some ⟨some 9223372036854775807⟩⟩ ∧
      Agrees ⟨some ⟨some "\"\n\x7F", none⟩, none, some ⟨some 9223372036854775807⟩⟩ ∧
      ∃ draft : Toml.Draft,
        draft.entries.map Prod.fst = ["title", "scenario", "other", "target"] ∧
          Toml.readDocument Config draft.text =
            .ok ⟨⟨"\"\n\x7F", 5000⟩, ⟨10, 1000, 100⟩, ⟨some 9223372036854775807⟩⟩ := by
  have writable :
      Writable ⟨some ⟨some "\"\n\x7F", none⟩, none, some ⟨some 9223372036854775807⟩⟩ := by
    intro name settings inside key n member
    simp only [tables, Option.map_some, Option.map_none, List.mem_cons, Prod.mk.injEq,
      Option.some.injEq, List.not_mem_nil, or_false, reduceCtorEq, and_false, false_or] at inside
    rcases inside with ⟨-, rfl⟩ | ⟨-, rfl⟩
    · simp [Target.settings] at member
    · simp only [Scenario.settings, Option.map_some, List.mem_singleton, Prod.mk.injEq,
        Option.some.injEq, Setting.whole.injEq] at member
      rw [member.2]
      decide
  have agreed := formats_agree.1 _ writable
  have scenario : (([.ofWhole "size" 0 (by decide),
      .ofWhole "seed" 9223372036854775807 (by decide)] : List Toml.Definition).map
        Toml.Definition.key).Nodup := by decide
  have names : ["title", "scenario", "other", "target"].Nodup := by decide
  refine ⟨writable, agreed, ⟨[.ofText "title" ""], [⟨"scenario", _, scenario⟩,
    ⟨"other", [], .nil⟩, ⟨"target", [.ofText "url" "\"\n\x7F"], by decide⟩], names⟩, rfl,
    agreed.ofDraft _ ?_⟩
  intro name settings inside
  simp only [tables, List.mem_cons, List.not_mem_nil, or_false, Prod.mk.injEq] at inside
  rcases inside with ⟨rfl, rfl⟩ | ⟨rfl, rfl⟩ | ⟨rfl, rfl⟩
  · refine ⟨some _, rfl, .some ⟨_, rfl, ?_⟩⟩
    intro key setting member
    simp only [Target.settings, List.mem_cons, List.not_mem_nil, or_false, Prod.mk.injEq] at member
    rcases member with ⟨rfl, rfl⟩ | ⟨rfl, rfl⟩
    · exact ⟨some _, rfl, rfl⟩
    · exact ⟨none, rfl, rfl⟩
  · exact ⟨none, rfl, .none⟩
  · refine ⟨some _, rfl, .some ⟨_, rfl, ?_⟩⟩
    intro key setting member
    cases List.mem_singleton.mp member
    exact ⟨some _, rfl, rfl⟩

end PartialConfig

end ReservationLoad

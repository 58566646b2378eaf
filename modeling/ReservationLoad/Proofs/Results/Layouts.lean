import ReservationLoad.Proofs.Config.Partial
import ReservationLoad.Proofs.Json.Flaws
import ReservationLoad.Proofs.Reservation.Wire
import ReservationLoad.Proofs.Results.Document

/-!
# Documents in any layout

What a text says about the members of a document is all that counts when it is
read: neither their order nor members of other names leave a trace, and a list of
the values does as well as an object.  No member may be missing but the latency
of a report, which is absent then, and the settings, which are the built-in ones
then.
-/

namespace ReservationLoad

open Json Wire

/-! ## Settings -/

namespace PartialConfig

theorem absent_or_readable {α : Type} {shape : Shape} {write : α → Datum}
    (readable : ∀ value, Readable shape (write value)) (given : Option α) :
    datumOf write given = .absent ∨ Readable shape (datumOf write given) := by
  cases given with
  | none => exact .inl rfl
  | some value => exact .inr (readable value)

theorem Target.readable (t : Target) : Readable (Document.shape TargetConfig) t.datum := by
  refine ⟨by decide, (fun _ needed => nomatch needed), ?url, ?timeout, trivial⟩
  case url =>
    apply absent_or_readable
    exact fun _ => trivial
  case timeout => exact absent_or_readable (fun timeout => timeout.toNat_lt) t.timeoutMs

theorem Load.readable (l : Load) : Readable (Document.shape LoadConfig) l.datum := by
  refine ⟨by decide, (fun _ needed => nomatch needed), ?workers, ?total, ?interval, trivial⟩
  case workers => exact absent_or_readable (fun workers => workers.toNat_lt) l.workers
  case total => exact absent_or_readable (fun total => total.toNat_lt) l.totalRequests
  case interval => exact absent_or_readable (fun interval => interval.toNat_lt) l.logEvery

theorem Scenario.readable (s : Scenario) : Readable (Document.shape ScenarioConfig) s.datum := by
  refine ⟨by decide, (fun _ needed => nomatch needed), ?seed, trivial⟩
  case seed =>
    apply absent_or_readable
    exact fun seed => .inr seed.toNat_lt

theorem readable (p : PartialConfig) : Readable (Document.shape Config) p.datum := by
  refine ⟨by decide, (fun _ needed => nomatch needed), ?target, ?load, ?scenario, trivial⟩
  case target => exact absent_or_readable Target.readable p.target
  case load => exact absent_or_readable Load.readable p.load
  case scenario => exact absent_or_readable Scenario.readable p.scenario

/-- Settings that are given in any layout are filled up with the built-in ones. -/
theorem readDocument_eq {p : PartialConfig} {text : String}
    (layout : IsLayout (Document.shape Config) p.datum text) :
    readDocument Config text = .ok p.fill :=
  readDocument_eq_ok (layout.readDatum_eq p.readable) p.ofDatum?_datum

/-- All settings of a configuration. -/
def ofConfig (c : Config) : PartialConfig where
  target := some ⟨some c.target.url, some c.target.timeoutMs⟩
  load := some ⟨some c.load.workers, some c.load.totalRequests, some c.load.logEvery⟩
  scenario := some ⟨c.scenario.seed⟩

end PartialConfig

/-- A table that is missing in a layout of the configuration is the built-in one. -/
structure Config.FallsBack (c : Config) : Prop where
  target : ∀ {text : String}, IsLayout (Document.shape Config) (datumWithout "target" c) text →
    readDocument Config text = .ok { c with target := {} }
  load : ∀ {text : String}, IsLayout (Document.shape Config) (datumWithout "load" c) text →
    readDocument Config text = .ok { c with load := {} }
  scenario : ∀ {text : String}, IsLayout (Document.shape Config) (datumWithout "scenario" c) text →
    readDocument Config text = .ok { c with scenario := {} }

theorem Config.fallsBack (c : Config) : c.FallsBack where
  target {text} layout := by
    have datum :
        datumWithout "target" c = { PartialConfig.ofConfig c with target := none }.datum := by
      rcases c with ⟨_, _, _ | seed⟩ <;> rfl
    rw [datum] at layout
    exact PartialConfig.readDocument_eq layout
  load {text} layout := by
    have datum :
        datumWithout "load" c = { PartialConfig.ofConfig c with load := none }.datum := by
      rcases c with ⟨_, _, _ | seed⟩ <;> rfl
    rw [datum] at layout
    exact PartialConfig.readDocument_eq layout
  scenario {text} layout := by
    have datum :
        datumWithout "scenario" c = { PartialConfig.ofConfig c with scenario := none }.datum := rfl
    rw [datum] at layout
    exact PartialConfig.readDocument_eq layout

/-! ## Reports -/

/-- A report without its latency is a report. -/
theorem Report.readDocument_of_removed {r : Report} (survive : ∀ x ∈ r.figures, Survives x)
    {text : String} (layout : IsLayout (Document.shape Report) (datumWithout "latency" r) text) :
    readDocument Report text = .ok { r with latency := none } := by
  have fewer : ∀ x ∈ ({ r with latency := none } : Report).figures, Survives x := by
    simp only [figures, List.forall_mem_cons] at survive ⊢
    exact ⟨survive.1, survive.2.1, by simp⟩
  have faithful := Report.faithful fewer
  exact readDocument_eq_ok (layout.readDatum_eq faithful.conforms.readable) faithful.rebuilt

/-! ## Every document -/

/-- Reservations, reports and their parts, and configurations are read from every
layout whose numbers come back from their texts.  A repeated member is refused,
a missing one too; but a report may lack its latency, and a configuration may
lack tables and keys, in whatever layout. -/
theorem read_in_any_layout :
    (∀ r : Reservation, Survives r.pricePerNight → Survives r.totalPrice → ReadsAnyLayout [] r) ∧
      (∀ r : Report, (∀ x ∈ r.figures, Survives x) → ReadsAnyLayout ["latency"] r ∧
        ∀ text, IsLayout (Document.shape Report) (datumWithout "latency" r) text →
          readDocument Report text = .ok { r with latency := none }) ∧
      (∀ l : LatencySummary, (∀ x ∈ l.figures, Survives x) → ReadsAnyLayout [] l) ∧
      (∀ s : Snapshot, ReadsAnyLayout [] s) ∧
      (∀ c : Config, ReadsAnyLayout ["target", "load", "scenario"] c ∧ c.FallsBack) ∧
      ∀ (p : PartialConfig) (text : String), IsLayout (Document.shape Config) p.datum text →
        readDocument Config text = .ok p.fill := by
  refine ⟨?reservation, ?report, ?latency, ?snapshot, ?config, ?settings⟩
  case reservation =>
    intro r perNight total
    exact (Reservation.faithful perNight total).readsAnyLayout rfl (by decide)
  case report =>
    intro r survive
    exact ⟨(Report.faithful survive).readsAnyLayout rfl (by decide),
      fun _ => Report.readDocument_of_removed survive⟩
  case latency =>
    intro l survive
    exact (LatencySummary.faithful survive).readsAnyLayout rfl (by decide)
  case snapshot =>
    intro s
    exact s.faithful.readsAnyLayout rfl (by decide)
  case config =>
    intro c
    exact ⟨c.faithful.readsAnyLayout rfl (by decide), c.fallsBack⟩
  case settings =>
    intro p text
    exact PartialConfig.readDocument_eq

/-- A report of one request that took no time, its members in the opposite order
behind a note; the figures of its latency in a list; counts without the errors,
and with the successes twice; and settings that say nothing. -/
theorem read_in_any_layout_of_no_time :
    Survives .zero ∧
      readDocument Report (Value.object (("note", .list [.null]) ::
          (ownMembers (⟨.zero, 1, 1, 0, .zero, none⟩ : Report)).reverse)).pretty =
        .ok ⟨.zero, 1, 1, 0, .zero, none⟩ ∧
      readDocument LatencySummary (Value.list
          ((ownMembers (⟨1, .zero, .zero, .zero, .zero, .zero, .zero, .zero⟩ :
            LatencySummary)).map Prod.snd)).compact =
        .ok ⟨1, .zero, .zero, .zero, .zero, .zero, .zero, .zero⟩ ∧
      readDocument Snapshot (Value.object
          ((ownMembers (⟨1, 0, 1⟩ : Snapshot)).filter fun member =>
            member.1 != "errors")).compact =
        .error (.misfit (.missingMember "errors")) ∧
      readDocument Snapshot (Value.object
          (ownMembers (⟨1, 0, 1⟩ : Snapshot) ++ [("success", .null)])).compact =
        .error (.misfit (.duplicateMember "success")) ∧
      readDocument Config "{}" = .ok Config.default := by
  have zero : Survives .zero := .of_survives (by decide +kernel)
  obtain ⟨-, reports, latencies, snapshots, -, settings⟩ := read_in_any_layout
  refine ⟨zero, ?report, ?latency, ?missing, ?duplicate, settings {} "{}" ?settings⟩
  case report =>
    have read := (reports ⟨.zero, 1, 1, 0, .zero, none⟩ (by simp [Report.figures, zero])).1
    have same : ∀ own : List (String × Value), (("note", .list [.null]) :: own.reverse).Perm
        (own ++ [("note", .list [.null])]) := by
      intro own
      exact ((List.reverse_perm own).cons _).trans (List.perm_append_singleton _ own).symm
    refine read.reads (read.shuffled (same _) (by decide) (isText_pretty ?_))
    refine ⟨⟨trivial, trivial⟩, ?_, ?_, ?_, ?_, ?_, ?_, trivial⟩
    all_goals exact wellFormed_ofDatum _ _
  case latency =>
    have read := latencies ⟨1, .zero, .zero, .zero, .zero, .zero, .zero, .zero⟩
      (by simp [LatencySummary.figures, zero])
    refine read.reads (read.positional (isText_compact ?_))
    refine ⟨?_, ?_, ?_, ?_, ?_, ?_, ?_, ?_, trivial⟩
    all_goals exact wellFormed_ofDatum _ _
  case missing =>
    have read := snapshots ⟨1, 0, 1⟩
    have same : ∀ own : List (String × Value), own.Perm (own ++ []) := by simp
    refine read.removed (by decide) (by decide)
      (read.fewer (by decide) (same _) (by simp) (isText_compact ?_))
    refine ⟨?_, ?_, trivial⟩
    all_goals exact wellFormed_ofDatum _ _
  case duplicate =>
    have read := snapshots ⟨1, 0, 1⟩
    have same : ∀ own : List (String × Value), (own ++ []).Perm (own ++ []) := fun _ => .refl _
    refine read.flawed (read.doubled (by decide) (same _) (by simp) (by decide)
      (isText_compact ?_))
    refine ⟨?_, ?_, ?_, trivial, trivial⟩
    all_goals exact wellFormed_ofDatum _ _
  case settings =>
    have missing : ∀ name, Holds ([] : List (String × Piece)) name none := fun _ => rfl
    exact ⟨⟨['{', '}'], []⟩, .mk .none .none, .object (.mk (.close .none))
      (.missing (missing _) (.missing (missing _) (.missing (missing _) .nil)))⟩

end ReservationLoad

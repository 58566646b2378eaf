import ReservationLoad.Proofs.Report.Summary

/-!
# The order of recording

Workers record their samples in whatever order they get to it, and anyone may
ask for the counts or for a report in between.  Neither shows in the end: a
report is computed from the sorted samples, so it is settled, bit for bit, by
which samples were recorded, and asking changes nothing.  The counts are exact
at every moment as long as they fit into their words.  All of this holds in checked
arithmetic and in arithmetic that wraps around.
-/

namespace ReservationLoad.Collector

/-- A latency and whether the request succeeded. -/
abbrev Sample := Binary64 × Bool

/-- What can be asked of a collector. -/
inductive Call
  | record (latency : Binary64) (success : Bool)
  | snapshot
  | summarize (elapsed : Calendar.Span) (total : UInt64)
deriving DecidableEq

inductive Answer
  | recorded
  | counted (counts : Snapshot)
  | summarized (outcome : Except Overflow Report)

/-- The answer to a call, and the collector behind it. -/
def respond (arithmetic : Arithmetic) (c : Collector) : Call → Answer × Collector
  | .record latency success => (.recorded, c.record latency success)
  | .snapshot => (.counted c.snapshot, c)
  | .summarize elapsed total => (.summarized (c.summarize arithmetic elapsed total), c)

/-- The answers to calls one after another, and the collector behind them. -/
def session (arithmetic : Arithmetic) (c : Collector) : List Call → List Answer × Collector
  | [] => ([], c)
  | call :: later =>
    let (answer, next) := c.respond arithmetic call
    let (answers, last) := next.session arithmetic later
    (answer :: answers, last)

def Call.sample? : Call → Option Sample
  | .record latency success => some (latency, success)
  | .snapshot => none
  | .summarize _ _ => none

def samplesOf (calls : List Call) : List Sample := calls.filterMap Call.sample?

def recordAll (c : Collector) (samples : List Sample) : Collector :=
  samples.foldl (fun c sample => c.record sample.1 sample.2) c

/-- Is this the right answer, with the right counts, once `n` samples have
been recorded? -/
def Call.Exact (arithmetic : Arithmetic) (n : Nat) : Call → Answer → Prop
  | .record _ _, .recorded => True
  | .snapshot, .counted counts =>
    counts.success.toNat + counts.errors.toNat = n ∧ counts.samples.toNat = n
  | .summarize _ _, .summarized outcome =>
    ((∃ report, outcome = .ok report) ↔ arithmetic.Places n) ∧
      ∀ report, outcome = .ok report →
        ∃ completed, report.completed arithmetic = .ok completed ∧ completed.toNat = n
  | _, _ => False

/-- What holds of calls to a new collector. -/
structure ExactAnswers (arithmetic : Arithmetic) (calls : List Call) : Prop where
  /-- Nothing but the records has changed the collector, -/
  state : (empty.session arithmetic calls).2 = empty.recordAll (samplesOf calls)
  /-- and every call is answered with the counts so far. -/
  answers : ∀ i (call : Call), calls[i]? = some call → ∃ answer,
    (empty.session arithmetic calls).1[i]? = some answer ∧
      call.Exact arithmetic (samplesOf (calls.take i)).length answer

variable {arithmetic : Arithmetic} {c d : Collector} {samples samples' : List Sample}
  {calls : List Call}

/-! ## What a collector holds -/

/-- The collector accounts for `n` samples. -/
structure Counts (c : Collector) (n : Nat) : Prop where
  success_add_errors : c.success + c.errors = n
  length_samples : c.samples.length = n

theorem Counts.record {n : Nat} (counts : c.Counts n) (latency : Binary64) (success : Bool) :
    (c.record latency success).Counts (n + 1) where
  success_add_errors := by rw [success_add_errors_record, counts.success_add_errors]
  length_samples := by rw [← counts.length_samples]; rfl

theorem Counts.recordAll {n : Nat} (counts : c.Counts n) (samples : List Sample) :
    (c.recordAll samples).Counts (n + samples.length) := by
  induction samples generalizing c n with
  | nil => exact counts
  | cons sample later ih =>
      have more := ih (counts.record sample.1 sample.2)
      rw [Nat.add_right_comm] at more
      exact more

theorem counts_empty : empty.Counts 0 := ⟨rfl, rfl⟩

/-- The same counts, and the same samples in some order. -/
structure SameRecords (c d : Collector) : Prop where
  success : c.success = d.success
  errors : c.errors = d.errors
  samples : c.samples.Perm d.samples

namespace SameRecords

theorem refl (c : Collector) : c.SameRecords c := ⟨rfl, rfl, .refl _⟩

theorem trans {e : Collector} (first : c.SameRecords d) (second : d.SameRecords e) :
    c.SameRecords e where
  success := first.success.trans second.success
  errors := first.errors.trans second.errors
  samples := first.samples.trans second.samples

theorem record (same : c.SameRecords d) (latency : Binary64) (success : Bool) :
    (c.record latency success).SameRecords (d.record latency success) where
  success := by simp only [Collector.record, same.success]
  errors := by simp only [Collector.record, same.errors]
  samples := same.samples.cons latency

/-- Two samples can be recorded in either order. -/
theorem record_record (c : Collector) (one other : Sample) :
    ((c.record one.1 one.2).record other.1 other.2).SameRecords
      ((c.record other.1 other.2).record one.1 one.2) where
  success := by cases one.2 <;> cases other.2 <;> rfl
  errors := by cases one.2 <;> cases other.2 <;> rfl
  samples := .swap one.1 other.1 c.samples

theorem recordAll (same : c.SameRecords d) (samples : List Sample) :
    (c.recordAll samples).SameRecords (d.recordAll samples) := by
  induction samples generalizing c d with
  | nil => exact same
  | cons sample later ih => exact ih (same.record sample.1 sample.2)

theorem recordAll_of_perm (c : Collector) (same : samples.Perm samples') :
    (c.recordAll samples).SameRecords (c.recordAll samples') := by
  induction same generalizing c with
  | nil => exact .refl c
  | cons sample _ ih => exact ih (c.record sample.1 sample.2)
  | swap one other later => exact (record_record c other one).recordAll later
  | trans _ _ ih ih' => exact (ih c).trans (ih' c)

theorem snapshot_eq (same : c.SameRecords d) : c.snapshot = d.snapshot := by
  simp only [snapshot, same.success, same.errors, same.samples.length_eq]

/-- The order of the samples is gone once they are sorted. -/
theorem summarize_eq (same : c.SameRecords d) (arithmetic : Arithmetic)
    (elapsed : Calendar.Span) (total : UInt64) :
    c.summarize arithmetic elapsed total = d.summarize arithmetic elapsed total := by
  have figured : c.reportWith elapsed total = d.reportWith elapsed total := by
    funext latency
    rw [reportWith, reportWith, same.success, same.errors]
  rw [summarize, summarize, figured, Binary64.sortAscending_eq_of_perm same.samples]

end SameRecords

/-! ## One call -/

/-- Asking does not change the collector. -/
theorem state_respond_eq_self (c : Collector) {call : Call} (asking : call.sample? = none) :
    (c.respond arithmetic call).2 = c := by
  cases call with
  | record latency success => cases asking
  | snapshot => rfl
  | summarize elapsed total => rfl

theorem exact_respond {n : Nat} (counts : c.Counts n) (small : n < UInt64.size) (call : Call) :
    call.Exact arithmetic n (c.respond arithmetic call).1 := by
  have sum := counts.success_add_errors
  have success : (UInt64.ofNat c.success).toNat = c.success :=
    UInt64.toNat_ofNat_of_lt' (by omega)
  have errors : (UInt64.ofNat c.errors).toNat = c.errors :=
    UInt64.toNat_ofNat_of_lt' (by omega)
  cases call with
  | record latency success => trivial
  | snapshot =>
      refine ⟨?_, ?_⟩
      · change (UInt64.ofNat c.success).toNat + (UInt64.ofNat c.errors).toNat = n
        rw [success, errors, sum]
      · change (UInt64.ofNat c.samples.length).toNat = n
        rw [counts.length_samples, UInt64.toNat_ofNat_of_lt' small]
  | summarize elapsed total =>
      have samples := counts.length_samples
      refine ⟨?_, fun report done => ⟨UInt64.ofNat n, ?_, UInt64.toNat_ofNat_of_lt' small⟩⟩
      · rw [← samples] at small ⊢
        exact exists_summarize_iff small
      · rw [(eq_of_summarize done).2, Report.completed, Arithmetic.add, reportWith, success,
          errors, sum]
        exact Arithmetic.settle_of_lt small

/-! ## Calls one after another -/

theorem state_session (arithmetic : Arithmetic) (c : Collector) (calls : List Call) :
    (c.session arithmetic calls).2 = c.recordAll (samplesOf calls) := by
  induction calls generalizing c with
  | nil => rfl
  | cons call later ih =>
      cases call with
      | record latency success => exact ih (c.record latency success)
      | snapshot => exact ih c
      | summarize elapsed total => exact ih c

/-- A call is answered by the collector behind the calls in front of it. -/
theorem getElem?_session (c : Collector) (calls : List Call) (i : Nat) :
    (c.session arithmetic calls).1[i]? = calls[i]?.map fun call =>
      ((c.session arithmetic (calls.take i)).2.respond arithmetic call).1 := by
  induction calls generalizing c i with
  | nil => rfl
  | cons call later ih =>
      cases i with
      | zero => rfl
      | succ i => exact ih (c.respond arithmetic call).2 i

theorem exact_session (small : (samplesOf calls).length < UInt64.size) :
    ExactAnswers arithmetic calls where
  state := state_session arithmetic empty calls
  answers i call found := by
    have fewer : (samplesOf (calls.take i)).length ≤ (samplesOf calls).length :=
      ((List.take_sublist i calls).filterMap Call.sample?).length_le
    have counts := counts_empty.recordAll (samplesOf (calls.take i))
    rw [Nat.zero_add, ← state_session arithmetic] at counts
    refine ⟨_, ?_, exact_respond counts (Nat.lt_of_le_of_lt fewer small) call⟩
    rw [getElem?_session, found]
    rfl

/-- Calls that record the same samples, in whatever order and with whatever
asked in between, end with the same counts and the same report.  Until then
every answer has the exact counts, and asking changes nothing. -/
theorem report_independent_of_order (arithmetic : Arithmetic) (first second : List Call)
    (same : (samplesOf first).Perm (samplesOf second))
    (small : (samplesOf first).length < UInt64.size) :
    (∀ elapsed total, (empty.session arithmetic first).2.summarize arithmetic elapsed total =
      (empty.session arithmetic second).2.summarize arithmetic elapsed total) ∧
    (empty.session arithmetic first).2.snapshot = (empty.session arithmetic second).2.snapshot ∧
    ExactAnswers arithmetic first ∧ ExactAnswers arithmetic second ∧
    ∀ c : Collector, ∀ call : Call, call.sample? = none → (c.respond arithmetic call).2 = c := by
  have records := SameRecords.recordAll_of_perm empty same
  rw [← state_session arithmetic, ← state_session arithmetic] at records
  refine ⟨records.summarize_eq arithmetic, records.snapshot_eq, exact_session small, ?_, ?_⟩
  · rw [same.length_eq] at small
    exact exact_session small
  · intro c call
    exact state_respond_eq_self c

/-- NaNs of either sign and both zeros, with questions at different places. -/
theorem report_independent_of_order_nan_and_zeros :
    let first : List Call :=
      [.record ⟨0x7ff8000000000000⟩ true, .record .negativeZero false, .snapshot,
        .record ⟨0xfff8000000000000⟩ true, .record .zero true]
    let second : List Call :=
      [.record .zero true, .record ⟨0xfff8000000000000⟩ true, .summarize ⟨1, 0⟩ 2,
        .record ⟨0x7ff8000000000000⟩ true, .snapshot, .record .negativeZero false]
    (samplesOf first).Perm (samplesOf second) ∧ (samplesOf first).length < UInt64.size ∧
      ∀ arithmetic : Arithmetic,
        (∀ elapsed total, (empty.session arithmetic first).2.summarize arithmetic elapsed total =
          (empty.session arithmetic second).2.summarize arithmetic elapsed total) ∧
        (empty.session arithmetic first).2.snapshot = ⟨3, 1, 4⟩ ∧
        ExactAnswers arithmetic first ∧ ExactAnswers arithmetic second := by
  intro first second
  have same : (samplesOf first).Perm (samplesOf second) := by decide
  have small : (samplesOf first).length < UInt64.size := by decide
  refine ⟨same, small, fun arithmetic => ?_⟩
  have independent := report_independent_of_order arithmetic first second same small
  exact ⟨independent.1, rfl, independent.2.2.1, independent.2.2.2.1⟩

end ReservationLoad.Collector

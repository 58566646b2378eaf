import Mathlib.Algebra.BigOperators.Group.List.Basic
import Mathlib.Tactic.Abel
import ReservationLoad.Proofs.Pool.Deeds

/-!
# Runs of a pool with their histories

A run lets one worker after the other make a step, in any order and with any
answers to the posts, and writes down who did what.  Nothing else is assumed
of the schedule or of the transport, so what holds of all runs holds of every
schedule and of every transport (`Run.of_reaches`).

Four ways lead from one step to a whole run: a property that every step keeps
(`Run.invariant`), a property of a single worker that its own steps and the
others' keep (`Run.localInvariant`), an account over all workers that balances
with every deed (`Run.balance`), and one in which something goes from one
shared place to another through the hands of the workers (`Run.transfer`).
-/

namespace ReservationLoad

open Chance

/-- Who did what, the latest deed first. -/
abbrev History := List (Nat × Deed)

/-! ## Exchanging an entry of a list -/

section Exchange

variable {α M : Type} [AddCancelCommMonoid M]

/-- Exchanging one entry of a list exchanges its weight. -/
theorem sum_map_set (weigh : α → M) {entries : List α} {old : α} {place : Nat}
    (found : entries[place]? = some old) (new : α) :
    ((entries.set place new).map weigh).sum + weigh old =
      (entries.map weigh).sum + weigh new := by
  induction entries generalizing place with
  | nil => simp at found
  | cons first others ih =>
      cases place with
      | zero =>
          simp only [List.getElem?_cons_zero, Option.some.injEq] at found
          subst first
          simp only [List.set_cons_zero, List.map_cons, List.sum_cons]
          rw [add_right_comm, add_comm (weigh new), add_right_comm]
      | succ place =>
          have rest : others[place]? = some old := by
            simpa using found
          have tail := ih rest
          simp only [List.set_cons_succ, List.map_cons, List.sum_cons, add_assoc, tail]

theorem sum_map_toNat (holds : α → Bool) (entries : List α) :
    (entries.map fun entry => (holds entry).toNat).sum = entries.countP holds := by
  induction entries with
  | nil => rfl
  | cons first others ih =>
      rw [List.map_cons, List.sum_cons, ih, List.countP_cons]
      cases holds first <;> simp [Nat.add_comm]

theorem countP_set_add (holds : α → Bool) {entries : List α} {old : α} {place : Nat}
    (found : entries[place]? = some old) (new : α) :
    (entries.set place new).countP holds + (holds old).toNat =
      entries.countP holds + (holds new).toNat := by
  simpa only [sum_map_toNat] using sum_map_set (fun entry => (holds entry).toNat) found new

end Exchange

namespace Pool

/-! ## Sums over workers and over histories -/

section Sums

variable {σ M : Type} [AddCancelCommMonoid M]

/-- The sum over all workers of what each of them weighs. -/
def tally (weigh : Worker σ → M) (p : Pool σ) : M := (p.workers.map weigh).sum

theorem tally_eq_zero {weigh : Worker σ → M} {p : Pool σ}
    (nothing : ∀ w ∈ p.workers, weigh w = 0) : p.tally weigh = 0 := by
  apply List.sum_eq_zero
  intro weight member
  rcases List.mem_map.mp member with ⟨w, inside, rfl⟩
  exact nothing w inside

/-- What a history pays out in all. -/
def payments (paid : Nat → Deed → M) (history : History) : M :=
  (history.map fun entry => paid entry.1 entry.2).sum

@[simp]
theorem payments_nil (paid : Nat → Deed → M) : payments paid [] = 0 := rfl

@[simp]
theorem payments_cons (paid : Nat → Deed → M) (entry : Nat × Deed) (history : History) :
    payments paid (entry :: history) = paid entry.1 entry.2 + payments paid history := by
  simp [payments]

end Sums

variable {σ : Type} [WordSource σ] {settings : PoolSettings} {transport : Transport}
  {answer : Reservation → Reply} {id : Nat} {deed : Deed} {history : History} {p q r : Pool σ}

/-- What the worker with the given number does next. -/
def deed? (settings : PoolSettings) (id : Nat) (p : Pool σ) : Option Deed := do
  let me ← p.workers[id]?
  me.deed? settings p.shared.queue

/-- Any number of steps of any workers, with their history. -/
inductive Run (settings : PoolSettings) (p : Pool σ) : History → Pool σ → Prop
  | refl : Run settings p [] p
  | step {q r : Pool σ} {history : History} {id : Nat} {deed : Deed}
      {answer : Reservation → Reply}
      (before : Run settings p history q)
      (next : q.deed? settings id = some deed)
      (step : q.stepWith? settings answer id = some r) :
      Run settings p ((id, deed) :: history) r

/-! ## Steps of a pool -/

theorem stepWith?_eq_some_iff :
    p.stepWith? settings answer id = some q ↔
      ∃ me me' shared', p.workers[id]? = some me ∧
        me.step? settings answer id p.shared = some (me', shared') ∧
        q = ⟨p.workers.set id me', shared'⟩ := by
  unfold stepWith?
  cases found : p.workers[id]? with
  | none => simp
  | some me =>
      cases moved : me.step? settings answer id p.shared with
      | none => simp [moved]
      | some result =>
          rcases result with ⟨me', shared'⟩
          simp [moved, eq_comm]

/-- A step of a pool makes a move of one worker. -/
theorem moves_of_stepWith? (step : p.stepWith? settings answer id = some q) :
    ∃ deed me me' shared', p.workers[id]? = some me ∧ p.deed? settings id = some deed ∧
      Worker.Moves settings answer id deed me p.shared me' shared' ∧
      q = ⟨p.workers.set id me', shared'⟩ := by
  rcases stepWith?_eq_some_iff.mp step with ⟨me, me', shared', found, moved, equal⟩
  rcases Worker.step?_eq_some_iff.mp moved with ⟨deed, next, move⟩
  refine ⟨deed, me, me', shared', found, ?_, move, equal⟩
  simpa [deed?, found] using next

/-- The move behind a step whose deed is known. -/
theorem moves_of_deed? (next : p.deed? settings id = some deed)
    (step : p.stepWith? settings answer id = some q) :
    ∃ me me' shared', p.workers[id]? = some me ∧
      Worker.Moves settings answer id deed me p.shared me' shared' ∧
      q = ⟨p.workers.set id me', shared'⟩ := by
  rcases moves_of_stepWith? step with ⟨made, me, me', shared', found, known, move, equal⟩
  obtain rfl : made = deed := Option.some.inj (known.symm.trans next)
  exact ⟨me, me', shared', found, move, equal⟩

theorem Run.continue (run : Run settings p history q)
    (step : q.stepWith? settings answer id = some r) :
    ∃ deed, Run settings p ((id, deed) :: history) r := by
  rcases moves_of_stepWith? step with ⟨deed, _, _, _, _, next, _, _⟩
  exact ⟨deed, run.step next step⟩

theorem Run.trans {later : History} (first : Run settings p history q)
    (second : Run settings q later r) : Run settings p (later ++ history) r := by
  induction second with
  | refl => exact first
  | step _ next step ih => exact ih.step next step

/-- What is reachable over a transport is reached by a run. -/
theorem Run.of_reaches (reached : Reaches settings transport p q) :
    ∃ history, Run settings p history q := by
  induction reached with
  | refl => exact ⟨[], .refl⟩
  | tail _ steps ih =>
      rcases ih with ⟨history, run⟩
      rcases steps with ⟨id, step⟩
      rcases run.continue step with ⟨deed, longer⟩
      exact ⟨_, longer⟩

/-! ## From steps to runs -/

/-- What every step keeps is kept by a run. -/
theorem Run.invariant (run : Run settings p history q) (Holds : History → Pool σ → Prop)
    (kept : ∀ {history q r id deed answer}, Holds history q →
      q.deed? settings id = some deed → q.stepWith? settings answer id = some r →
      Holds ((id, deed) :: history) r)
    (holds : Holds [] p) : Holds history q := by
  induction run with
  | refl => exact holds
  | step _ next step ih => exact kept ih next step

/-- A property of what is shared holds throughout a run when every move keeps
it. -/
theorem Run.sharedInvariant (run : Run settings p history q)
    (Holds : History → Shared → Prop)
    (kept : ∀ {answer id deed shared shared' history} {me me' : Worker σ},
      Worker.Moves settings answer id deed me shared me' shared' →
      Holds history shared → Holds ((id, deed) :: history) shared')
    (holds : Holds [] p.shared) : Holds history q.shared := by
  refine run.invariant (fun h r => Holds h r.shared) ?_ holds
  intro h q r id deed answer before next step
  rcases moves_of_deed? next step with ⟨me, me', shared', _, move, rfl⟩
  exact kept move before

/-- A property of one worker, of what is shared and of the history holds
throughout a run when the worker's own moves and those of the others keep
it. -/
theorem Run.localInvariant (run : Run settings p history q) (own : Nat)
    (Holds : History → Worker σ → Shared → Prop)
    (ownMoves : ∀ {answer deed shared shared' history} {me me' : Worker σ},
      Worker.Moves settings answer own deed me shared me' shared' →
      Holds history me shared → Holds ((own, deed) :: history) me' shared')
    (otherMoves : ∀ {answer other deed shared shared' history} {me they they' : Worker σ},
      other ≠ own → Worker.Moves settings answer other deed they shared they' shared' →
      Holds history me shared → Holds ((other, deed) :: history) me shared')
    (holds : ∀ me, p.workers[own]? = some me → Holds [] me p.shared) :
    ∀ me, q.workers[own]? = some me → Holds history me q.shared := by
  refine run.invariant
    (fun h r => ∀ me, r.workers[own]? = some me → Holds h me r.shared) ?_ holds
  intro h q r id deed answer before next step me found
  rcases moves_of_deed? next step with ⟨moved, moved', shared', at_id, move, rfl⟩
  -- The worker moved itself, or another one did and it is where it was.
  by_cases same : id = own
  · subst same
    have inside : id < q.workers.length := (List.getElem?_eq_some_iff.mp at_id).1
    simp only [List.getElem?_set_self inside, Option.some.injEq] at found
    subst me
    exact ownMoves move (before moved at_id)
  · simp only [List.getElem?_set_ne same] at found
    exact otherMoves same move (before me found)

theorem Run.length_workers (run : Run settings p history q) :
    q.workers.length = p.workers.length := by
  refine run.invariant (fun _ r => r.workers.length = p.workers.length) ?_ rfl
  intro _ q r _ _ _ same next step
  rcases moves_of_deed? next step with ⟨me, me', shared', _, _, rfl⟩
  simpa using same

/-! ## Accounts over all workers -/

section Accounts

variable {M : Type} [AddCancelCommMonoid M]

/-- An account that balances with every move balances with every step: what
the workers weigh and what is kept in common, together with what the deed
pays out. -/
theorem balance_step (weigh : Worker σ → M) (kept : Shared → M) (paid : Nat → Deed → M)
    (law : ∀ {answer id deed shared shared'} {me me' : Worker σ},
      Worker.Moves settings answer id deed me shared me' shared' →
      weigh me' + kept shared' + paid id deed = weigh me + kept shared)
    (next : p.deed? settings id = some deed)
    (step : p.stepWith? settings answer id = some q) :
    q.tally weigh + kept q.shared + paid id deed = p.tally weigh + kept p.shared := by
  rcases moves_of_deed? next step with ⟨me, me', shared', found, move, rfl⟩
  have exchanged := sum_map_set weigh found me'
  have balanced := law move
  apply add_right_cancel (b := weigh me)
  calc
    _ = ((p.workers.set id me').map weigh).sum + weigh me + (kept shared' + paid id deed) := by
      simp only [tally]
      abel
    _ = (p.workers.map weigh).sum + (weigh me' + kept shared' + paid id deed) := by
      rw [exchanged]
      abel
    _ = p.tally weigh + kept p.shared + weigh me := by
      rw [balanced, tally]
      abel

/-- An account that balances with every move balances over a whole run. -/
theorem Run.balance (run : Run settings p history q)
    (weigh : Worker σ → M) (kept : Shared → M) (paid : Nat → Deed → M)
    (law : ∀ {answer id deed shared shared'} {me me' : Worker σ},
      Worker.Moves settings answer id deed me shared me' shared' →
      weigh me' + kept shared' + paid id deed = weigh me + kept shared) :
    q.tally weigh + kept q.shared + payments paid history = p.tally weigh + kept p.shared := by
  refine run.invariant
    (fun h r =>
      r.tally weigh + kept r.shared + payments paid h = p.tally weigh + kept p.shared)
    ?_ (by simp)
  intro h q r id deed answer before next step
  rw [payments_cons, ← add_assoc, balance_step weigh kept paid law next step, before]

/-- What every move takes from one side of what is shared and puts to the
other or into the worker's hands, a whole run does. -/
theorem Run.transfer (run : Run settings p history q)
    (weigh : Worker σ → M) (given received : Shared → M)
    (law : ∀ {answer id deed shared shared'} {me me' : Worker σ},
      Worker.Moves settings answer id deed me shared me' shared' →
      weigh me' + received shared' + given shared =
        weigh me + received shared + given shared') :
    q.tally weigh + received q.shared + given p.shared =
      p.tally weigh + received p.shared + given q.shared := by
  refine run.invariant
    (fun _ r =>
      r.tally weigh + received r.shared + given p.shared =
        p.tally weigh + received p.shared + given r.shared)
    ?_ rfl
  intro h q r id deed answer before next step
  rcases moves_of_deed? next step with ⟨me, me', shared', found, move, rfl⟩
  have exchanged := sum_map_set weigh found me'
  have moved := law move
  simp only [tally] at before ⊢
  apply add_right_cancel (b := weigh me + given q.shared)
  calc
    _ = ((q.workers.set id me').map weigh).sum + weigh me +
          (received shared' + given q.shared + given p.shared) := by
      abel
    _ = (q.workers.map weigh).sum + (weigh me' + received shared' + given q.shared) +
          given p.shared := by
      rw [exchanged]
      abel
    _ = (q.workers.map weigh).sum + received q.shared + given p.shared +
          (weigh me + given shared') := by
      rw [moved]
      abel
    _ = _ := by
      rw [before]
      abel

end Accounts

end Pool

end ReservationLoad

import ReservationLoad.Proofs.CommandLine.Reading
import ReservationLoad.Proofs.Config.Layers

/-!
# Options for numeric settings

Every numeric setting has an option besides its variable.  When no other
argument gives the setting, its option can be put wherever the arguments in
front are complete.  It then gives the setting and leaves all else that the
arguments say as it is, whether the number stands behind an equals sign or is
an argument of its own.
-/

namespace ReservationLoad

namespace Config.Variable

/-- The option for the same setting. -/
def option : Variable → CommandLine.Setting
  | timeoutMs => .timeoutMs
  | workers => .workers
  | totalRequests => .totalRequests
  | logEvery => .logEvery
  | seed => .seed

/-- Gives the setting by its option. -/
def pass (which : Variable) (value : UInt64) (arguments : CommandLine.Arguments) :
    CommandLine.Arguments :=
  match which with
  | timeoutMs => { arguments with timeoutMs := some value }
  | workers => { arguments with workers := some value }
  | totalRequests => { arguments with totalRequests := some value }
  | logEvery => { arguments with logEvery := some value }
  | seed => { arguments with seed := some value }

/-- Both ways to write the option with the decimal digits of a value. -/
def flags (which : Variable) (value : UInt64) : List (List String) :=
  [["--" ++ which.option.name ++ "=" ++ toString value.toNat],
    ["--" ++ which.option.name, toString value.toNat]]

/-- Do the arguments leave the setting out? -/
def Unpassed (which : Variable) (arguments : CommandLine.Arguments) : Prop :=
  (Layer.ofArguments arguments).number which = none

variable {which : Variable} {value : UInt64} {arguments : CommandLine.Arguments}

theorem config_pass : (which.pass value arguments).config = arguments.config := by
  cases which <;> rfl

theorem url_pass : (which.pass value arguments).url = arguments.url := by
  cases which <;> rfl

theorem noExport_pass : (which.pass value arguments).noExport = arguments.noExport := by
  cases which <;> rfl

theorem number_pass (other : Variable) :
    (Layer.ofArguments (which.pass value arguments)).number other =
      if other = which then some value else (Layer.ofArguments arguments).number other := by
  cases which <;> cases other <;> rfl

end Config.Variable

namespace CommandLine

open Config (Variable)

variable {which : Variable} {v : UInt64} {setting : Setting} {value argument : String}

/-! ## One setting -/

theorem Arguments.assign_option (arguments : Arguments) (which : Variable) (value : String) :
    arguments.assign which.option value =
      (readWord which.option value).map fun n => which.pass n arguments := by
  cases which <;> rfl

/-- Two options assign different fields, so they commute. -/
theorem Arguments.assign_pass (arguments : Arguments) (other : setting ≠ which.option)
    (value : String) :
    (which.pass v arguments).assign setting value =
      (arguments.assign setting value).map (which.pass v) := by
  unfold assign
  cases setting
  case url => cases which <;> rfl
  case mode => cases readMode value <;> cases which <;> rfl
  case mockStatus => cases readStatus _ value <;> cases which <;> rfl
  case config | resultsDir => cases readPath _ value <;> cases which <;> rfl
  all_goals
    cases readWord _ value <;> cases which <;> first | rfl | exact absurd rfl other

theorem Arguments.eq_pass_of_number {arguments : Arguments} {n : UInt64}
    (given : (Config.Layer.ofArguments arguments).number which = some n) :
    arguments = which.pass n arguments := by
  obtain ⟨_, _, _, _, _, _, _, _, _, _, _, _⟩ := arguments
  cases which <;> cases given <;> rfl

/-- A setting that has been given stays given. -/
theorem unpassed_of_assign {before after : Arguments}
    (assigned : before.assign setting value = .ok after) (unpassed : which.Unpassed after) :
    setting ≠ which.option ∧ which.Unpassed before := by
  have noNumber : ∀ {n : UInt64} {arguments : Arguments}, after ≠ which.pass n arguments := by
    rintro n arguments rfl
    rw [Variable.Unpassed, Variable.number_pass, if_pos rfl] at unpassed
    cases unpassed
  have other : setting ≠ which.option := by
    rintro rfl
    rw [Arguments.assign_option] at assigned
    obtain ⟨n, -, same⟩ := Wire.exists_of_map_eq_ok assigned
    exact noNumber same.symm
  refine ⟨other, ?_⟩
  cases given : (Config.Layer.ofArguments before).number which with
  | none => exact given
  | some n =>
      rw [Arguments.eq_pass_of_number given, Arguments.assign_pass _ other] at assigned
      obtain ⟨arguments, -, same⟩ := Wire.exists_of_map_eq_ok assigned
      exact absurd same.symm noNumber

namespace Reading

variable {r r' s s' : Reading}

/-! ## What no argument takes back -/

/-- Later on, a setting that is still left out was left out before and its
option is no new one, and the options have not ended. -/
structure Grows (r s : Reading) : Prop where
  unpassed : ∀ which : Variable, which.Unpassed s.arguments → which.Unpassed r.arguments
  given : ∀ which : Variable, which.Unpassed s.arguments →
    which.option ∈ s.given → which.option ∈ r.given
  closed : s.closed = r.closed

theorem Grows.refl (r : Reading) : Grows r r :=
  ⟨fun _ unpassed => unpassed, fun _ _ given => given, rfl⟩

theorem Grows.trans {t : Reading} (first : Grows r s) (second : Grows s t) : Grows r t where
  unpassed which unpassed := first.unpassed which (second.unpassed which unpassed)
  given which unpassed given :=
    first.given which (second.unpassed which unpassed) (second.given which unpassed given)
  closed := second.closed.trans first.closed

theorem grows_pending (r : Reading) (pending : Option Pending) : Grows r { r with pending } :=
  ⟨fun _ unpassed => unpassed, fun _ _ given => given, rfl⟩

theorem grows_of_accept (accepted : r.accept setting value = .ok s) : Grows r s := by
  obtain ⟨-, arguments, assigned, rfl⟩ := accept_eq_ok accepted
  refine ⟨fun which unpassed => (unpassed_of_assign assigned unpassed).2, ?_, rfl⟩
  intro which unpassed given
  rcases List.mem_cons.mp given with same | given
  · exact absurd same.symm (unpassed_of_assign assigned unpassed).1
  · exact given

theorem grows_of_settle (settled : r.settle = .ok s) : Grows r s := by
  rcases settle_eq_ok settled with ⟨-, rfl⟩ | ⟨setting, value, -, accepted⟩
  · exact .refl s
  · exact (grows_pending r none).trans (grows_of_accept accepted)

theorem grows_of_turnOn {switch : Switch} (turned : r.turnOn switch = .ok s) : Grows r s := by
  cases switch with
  | help => cases turned
  | noExport =>
      simp only [turnOn] at turned
      split at turned
      next => cases turned
      next =>
        cases turned
        refine ⟨?_, fun which unpassed given => given, rfl⟩
        intro which unpassed
        cases which <;> exact unpassed

theorem grows_of_takePlain (taken : r.takePlain argument = .ok s) : Grows r s := by
  unfold takePlain at taken
  split at taken
  next =>
    cases taken
    exact grows_pending r _
  next => cases taken

theorem grows_of_takeOption {text : List Char} (taken : r.takeOption argument text = .ok s) :
    Grows r s := by
  unfold takeOption at taken
  simp only at taken
  split at taken
  next =>
    obtain ⟨t, settled, accepted⟩ := Wire.exists_of_bind_eq_ok taken
    exact (grows_of_settle settled).trans (grows_of_accept accepted)
  next =>
    obtain ⟨t, settled, ⟨⟩⟩ := Wire.exists_of_bind_eq_ok taken
    exact (grows_of_settle settled).trans (grows_pending t _)
  next => cases taken
  next =>
    obtain ⟨t, settled, turned⟩ := Wire.exists_of_bind_eq_ok taken
    exact (grows_of_settle settled).trans (grows_of_turnOn turned)
  next => cases taken

/-- Only two hyphens end the options. -/
theorem grows_of_take (taken : r.take argument = .ok s) :
    Grows r s ∨ argument = "--" ∧ s = { r with closed := true } := by
  unfold take at taken
  split at taken
  next => cases taken
  next =>
    split at taken
    next hyphens =>
      cases taken
      exact .inr ⟨String.toList_inj.mp hyphens, rfl⟩
    next => exact .inl (grows_of_takeOption taken)
    next => exact .inl (grows_of_takePlain taken)
    next =>
      obtain ⟨t, settled, turned⟩ := Wire.exists_of_bind_eq_ok taken
      exact .inl ((grows_of_settle settled).trans (grows_of_turnOn turned))
    next => cases taken
    next => exact .inl (grows_of_takePlain taken)

theorem unpassed_of_take (taken : r.take argument = .ok s)
    (unpassed : which.Unpassed s.arguments) : which.Unpassed r.arguments := by
  rcases grows_of_take taken with grows | ⟨-, rfl⟩
  · exact grows.unpassed which unpassed
  · exact unpassed

theorem unpassed_of_finish {arguments : List String} {last : Arguments}
    (finished : r.finish arguments = .ok last) (unpassed : which.Unpassed last) :
    which.Unpassed r.arguments := by
  induction arguments generalizing r with
  | nil =>
      rw [finish_nil] at finished
      obtain ⟨s, settled, ⟨⟩⟩ := Wire.exists_of_bind_eq_ok finished
      exact (grows_of_settle settled).unpassed which unpassed
  | cons argument arguments ih =>
      rw [finish_cons] at finished
      obtain ⟨s, taken, finished⟩ := Wire.exists_of_bind_eq_ok finished
      exact unpassed_of_take taken (ih finished)

theorem grows_of_foldlM {front : List String} (noEnd : "--" ∉ front)
    (taken : front.foldlM take r = .ok s) : Grows r s := by
  induction front generalizing r with
  | nil =>
      cases taken
      exact .refl s
  | cons argument front ih =>
      rw [List.foldlM_cons] at taken
      rw [List.mem_cons, not_or] at noEnd
      obtain ⟨t, first, later⟩ := Wire.exists_of_bind_eq_ok taken
      rcases grows_of_take first with grows | ⟨hyphens, -⟩
      · exact grows.trans (ih noEnd.2 later)
      · exact absurd hyphens.symm noEnd.1

/-! ## One more option -/

/-- The second reading has come by the same arguments and the option besides. -/
structure Passes (which : Variable) (v : UInt64) (r r' : Reading) : Prop where
  arguments : r'.arguments = which.pass v r.arguments
  given : ∀ setting, setting ∈ r'.given ↔ setting = which.option ∨ setting ∈ r.given
  pending : r'.pending = r.pending
  closed : r'.closed = r.closed

/-- The second step goes on in this way as long as the first does not give the
setting itself. -/
def Follows (which : Variable) (v : UInt64) (step step' : Except Fault Reading) : Prop :=
  ∀ s, step = .ok s → which.Unpassed s.arguments → ∃ s', step' = .ok s' ∧ Passes which v s s'

theorem follows_ok (passes : Passes which v s s') : Follows which v (.ok s) (.ok s') := by
  rintro _ ⟨⟩ -
  exact ⟨s', rfl, passes⟩

theorem follows_error {step' : Except Fault Reading} {fault : Fault} :
    Follows which v (.error fault) step' := by
  intro s done
  cases done

theorem Follows.bind {step step' : Except Fault Reading}
    {next next' : Reading → Except Fault Reading} (first : Follows which v step step')
    (later : ∀ s s', Passes which v s s' → Follows which v (next s) (next' s'))
    (grows : ∀ s t, next s = .ok t → Grows s t) :
    Follows which v (step >>= next) (step' >>= next') := by
  intro t done unpassed
  obtain ⟨s, stepped, done⟩ := Wire.exists_of_bind_eq_ok done
  obtain ⟨s', stepped', passes⟩ := first s stepped ((grows s t done).unpassed which unpassed)
  rw [stepped']
  exact later s s' passes t done unpassed

theorem follows_accept (passes : Passes which v r r') (setting : Setting) (value : String) :
    Follows which v (r.accept setting value) (r'.accept setting value) := by
  intro s accepted unpassed
  obtain ⟨fresh, arguments, assigned, rfl⟩ := accept_eq_ok accepted
  have other := (unpassed_of_assign assigned unpassed).1
  have fresh' : ¬ r'.given.contains setting = true := by
    rw [List.contains_iff_mem, passes.given]
    exact not_or.mpr ⟨other, fresh⟩
  refine ⟨{ r' with arguments := which.pass v arguments, given := setting :: r'.given }, ?_, ?_⟩
  · rw [accept, if_neg fresh', passes.arguments, Arguments.assign_pass _ other, assigned]
    rfl
  · refine ⟨rfl, fun setting' => ?_, passes.pending, passes.closed⟩
    rw [List.mem_cons, List.mem_cons, passes.given]
    tauto

theorem Passes.with_pending (passes : Passes which v r r') (pending : Option Pending) :
    Passes which v { r with pending } { r' with pending } :=
  { passes with pending := rfl }

theorem follows_settle (passes : Passes which v r r') :
    Follows which v r.settle r'.settle := by
  unfold settle
  rw [passes.pending]
  split
  next => exact follows_ok passes
  next => exact follows_error
  next => exact follows_accept (passes.with_pending none) _ _

theorem follows_turnOn (passes : Passes which v r r') (switch : Switch) :
    Follows which v (r.turnOn switch) (r'.turnOn switch) := by
  cases switch with
  | help => exact follows_error
  | noExport =>
      simp only [turnOn, passes.arguments, Variable.noExport_pass]
      split
      next => exact follows_error
      next =>
        refine follows_ok ⟨?_, passes.given, passes.pending, passes.closed⟩
        cases which <;> rfl

theorem follows_takePlain (passes : Passes which v r r') (argument : String) :
    Follows which v (r.takePlain argument) (r'.takePlain argument) := by
  unfold takePlain
  rw [passes.pending]
  split
  next => exact follows_ok (passes.with_pending _)
  next => exact follows_error

theorem follows_takeOption (passes : Passes which v r r') (argument : String)
    (text : List Char) :
    Follows which v (r.takeOption argument text) (r'.takeOption argument text) := by
  unfold takeOption
  simp only
  have settles := follows_settle passes
  split
  next =>
    refine settles.bind (fun s s' passes => follows_accept passes _ _) ?_
    exact fun s t => grows_of_accept
  next =>
    refine settles.bind (fun s s' passes => follows_ok (passes.with_pending _)) ?_
    rintro s _ ⟨⟩
    exact grows_pending s _
  next => exact follows_error
  next =>
    refine settles.bind (fun s s' passes => follows_turnOn passes _) ?_
    exact fun s t => grows_of_turnOn
  next => exact follows_error

theorem follows_take (passes : Passes which v r r') (argument : String) :
    Follows which v (r.take argument) (r'.take argument) := by
  unfold take
  rw [passes.closed]
  split
  next => exact follows_error
  next =>
    split
    next => exact follows_ok { passes with closed := rfl }
    next => exact follows_takeOption passes _ _
    next => exact follows_takePlain passes _
    next =>
      refine (follows_settle passes).bind (fun s s' passes => follows_turnOn passes _) ?_
      exact fun s t => grows_of_turnOn
    next => exact follows_error
    next => exact follows_takePlain passes _

theorem finish_of_passes (passes : Passes which v r r') {arguments : List String}
    {last : Arguments} (finished : r.finish arguments = .ok last)
    (unpassed : which.Unpassed last) : r'.finish arguments = .ok (which.pass v last) := by
  -- What is left out at the end is left out after every step, so each step can be followed.
  induction arguments generalizing r r' with
  | nil =>
      rw [finish_nil] at finished ⊢
      obtain ⟨s, settled, ⟨⟩⟩ := Wire.exists_of_bind_eq_ok finished
      obtain ⟨s', settled', passes⟩ := follows_settle passes s settled unpassed
      rw [settled', ← passes.arguments]
      rfl
  | cons argument arguments ih =>
      rw [finish_cons] at finished ⊢
      obtain ⟨s, taken, finished⟩ := Wire.exists_of_bind_eq_ok finished
      obtain ⟨s', taken', passes⟩ :=
        follows_take passes argument s taken (unpassed_of_finish finished unpassed)
      rw [taken']
      exact ih passes finished

/-! ## The flags of a setting -/

/-- The option is accepted with the digits of a word. -/
theorem exists_accept (fresh : which.option ∉ r.given) (v : UInt64) :
    ∃ s, r.accept which.option (toString v.toNat) = .ok s ∧ Passes which v r s := by
  have notGiven : ¬ r.given.contains which.option = true :=
    fun inside => fresh (List.contains_iff_mem.mp inside)
  refine ⟨{ r with arguments := which.pass v r.arguments, given := which.option :: r.given },
    ?_, rfl, fun setting => List.mem_cons, rfl, rfl⟩
  rw [accept, if_neg notGiven, Arguments.assign_option, readWord_toString]
  rfl

/-- Either way of writing the option is accepted where one may stand. -/
theorem finish_flag {flag : List String} (written : flag ∈ which.flags v)
    (opened : r.closed = false) (settled : r.settle = .ok s)
    (accepted : s.accept which.option (toString v.toNat) = .ok s') (behind : List String) :
    r.finish (flag ++ behind) = s'.finish behind := by
  simp only [Variable.flags, List.mem_cons, List.not_mem_nil, or_false] at written
  rcases written with rfl | rfl
  · exact finish_item (.attached which.option (toString v.toNat)) opened settled accepted behind
  · exact finish_item (.separate which.option (toString v.toNat) (toString_plain v.toNat)) opened
      settled accepted behind

end Reading

/-- Where the arguments leave a setting out, its option gives it. -/
theorem read_of_flag {front behind flag : List String} {arguments : Arguments}
    (read : CommandLine.read (front ++ behind) = .ok arguments)
    (unpassed : which.Unpassed arguments) (complete : ∃ so, CommandLine.read front = .ok so)
    (noEnd : "--" ∉ front) (written : flag ∈ which.flags v) :
    CommandLine.read (front ++ flag ++ behind) = .ok (which.pass v arguments) := by
  obtain ⟨so, complete⟩ := complete
  obtain ⟨r, taken, complete⟩ := Wire.exists_of_bind_eq_ok complete
  obtain ⟨s, settled, -⟩ := Wire.exists_of_bind_eq_ok complete
  have grows := (Reading.grows_of_foldlM noEnd taken).trans (Reading.grows_of_settle settled)
  have opened : r.closed = false := (Reading.grows_of_foldlM noEnd taken).closed
  change Reading.finish {} (front ++ behind) = .ok arguments at read
  change Reading.finish {} (front ++ flag ++ behind) = _
  rw [Reading.finish_append, taken, Wire.ok_bind, Reading.finish_of_settle settled] at read
  have left : which.Unpassed s.arguments := Reading.unpassed_of_finish read unpassed
  have fresh : which.option ∉ s.given := fun given => nomatch grows.given which left given
  obtain ⟨s', accepted, passes⟩ := Reading.exists_accept fresh v
  rw [List.append_assoc, Reading.finish_append, taken, Wire.ok_bind,
    Reading.finish_flag written opened settled accepted]
  exact Reading.finish_of_passes passes read unpassed

end CommandLine

end ReservationLoad

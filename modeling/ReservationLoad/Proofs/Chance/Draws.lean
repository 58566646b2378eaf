import ReservationLoad.Chance.Range

/-!
# What a draw takes

A draw takes words until it accepts one.  Which words these are is said here
apart from where they come from: `IsDraw` is about a list of words, and `Takes`
about a source that hands them out.  The words that are refused do not matter for
what is drawn (`Accepted.draws`).

From a script every draw ends by itself, before its patience does: behind the
words of a script there are only zeros, and zero is accepted by every range.
So what a draw from a script yields is settled by the words it takes
(`Script.drawBelow_eq`), and there are such words (`Script.exists_draws`).
-/

namespace ReservationLoad.Chance

/-- A source hands out some words, one after another, and is left behind
them. -/
inductive Takes {σ : Type} [WordSource σ] : σ → List UInt64 → σ → Prop
  | nil (source : σ) : Takes source [] source
  | cons {source later : σ} {words : List UInt64}
      (rest : Takes (WordSource.next source).2 words later) :
      Takes source ((WordSource.next source).1 :: words) later

/-- The words that a draw below `n` takes, and the number that is drawn: the
first word that is accepted is the last that is taken. -/
inductive IsDraw (n : UInt64) : List UInt64 → Nat → Prop
  | accept {word : UInt64} (accepted : accepts n word = true) : IsDraw n [word] (select n word)
  | refuse {word : UInt64} {words : List UInt64} {place : Nat}
      (refused : accepts n word = false) (draw : IsDraw n words place) :
      IsDraw n (word :: words) place

/-- Draws below several numbers, one after another. -/
inductive IsDraws : List Nat → List UInt64 → List Nat → Prop
  | nil : IsDraws [] [] []
  | cons {size place : Nat} {sizes places : List Nat} {words later : List UInt64}
      (draw : IsDraw (UInt64.ofNat size) words place) (draws : IsDraws sizes later places) :
      IsDraws (size :: sizes) (words ++ later) (place :: places)

/-- Which words several draws accept, of all that they take. -/
inductive Accepted : List Nat → List UInt64 → List UInt64 → Prop
  | nil : Accepted [] [] []
  | accept {size : Nat} {sizes : List Nat} {word : UInt64} {words kept : List UInt64}
      (accepted : accepts (UInt64.ofNat size) word = true) (rest : Accepted sizes words kept) :
      Accepted (size :: sizes) (word :: words) (word :: kept)
  | refuse {size : Nat} {sizes : List Nat} {word : UInt64} {words kept : List UInt64}
      (refused : accepts (UInt64.ofNat size) word = false)
      (rest : Accepted (size :: sizes) words kept) :
      Accepted (size :: sizes) (word :: words) kept

/-! ## Handing out words -/

namespace Takes

variable {σ : Type} [WordSource σ] {source between later other : σ} {words more : List UInt64}

theorem append (first : Takes source words between) (second : Takes between more later) :
    Takes source (words ++ more) later := by
  induction first with
  | nil => exact second
  | cons _ ih => exact .cons (ih second)

theorem exists_of_append (takes : Takes source (words ++ more) later) :
    ∃ between, Takes source words between ∧ Takes between more later := by
  induction words generalizing source with
  | nil => exact ⟨source, .nil source, takes⟩
  | cons word words ih =>
      cases takes with
      | cons rest =>
          obtain ⟨between, front, back⟩ := ih rest
          exact ⟨between, .cons front, back⟩

/-- A source hands out the same words whenever it is asked. -/
theorem unique (takes : Takes source words later) (takes' : Takes source more other)
    (number : words.length = more.length) : words = more ∧ later = other := by
  induction takes generalizing more with
  | nil =>
      cases takes' with
      | nil => exact ⟨rfl, rfl⟩
      | cons rest => cases number
  | cons _ ih =>
      cases takes' with
      | nil => cases number
      | cons rest =>
          obtain ⟨rfl, rfl⟩ := ih rest (Nat.succ.inj number)
          exact ⟨rfl, rfl⟩

/-- The words are gone from the script, and counted. -/
theorem script {s later : Script} (takes : Takes s words later) :
    later = ⟨s.ahead.drop words.length, s.drawn + words.length⟩ := by
  induction takes with
  | nil => rfl
  | @cons s later words _ ih =>
      rw [ih, List.length_cons, Nat.add_comm words.length, ← Nat.add_assoc]
      rcases s with ⟨_ | ⟨word, ahead⟩, drawn⟩
      · simp [WordSource.next, Script.next]
      · simp [WordSource.next, Script.next, Nat.add_comm 1]

/-- A script hands out its words. -/
theorem of_script (words more : List UInt64) (drawn : Nat) :
    Takes (⟨words ++ more, drawn⟩ : Script) words ⟨more, drawn + words.length⟩ := by
  induction words generalizing drawn with
  | nil => exact .nil _
  | cons word words ih =>
      have rest := ih (drawn + 1)
      rw [Nat.add_right_comm] at rest
      exact .cons rest

end Takes

/-! ## The words of draws -/

namespace IsDraw

variable {n word : UInt64} {words : List UInt64} {place : Nat}

/-- Only an accepted word is a draw by itself. -/
theorem singleton_iff :
    IsDraw n [word] place ↔ accepts n word = true ∧ select n word = place := by
  constructor
  · intro draw
    cases draw with
    | accept accepted => exact ⟨accepted, rfl⟩
    | refuse _ draw => cases draw
  · rintro ⟨accepted, rfl⟩
    exact .accept accepted

theorem length_pos (draw : IsDraw n words place) : 0 < words.length := by
  cases draw <;> exact Nat.zero_lt_succ _

theorem place_lt {size : Nat} (draw : IsDraw (UInt64.ofNat size) words place)
    (positive : 0 < size) : place < size := by
  induction draw with
  | accept _ => exact select_ofNat_lt positive _
  | refuse _ _ ih => exact ih

end IsDraw

namespace IsDraws

variable {sizes places more behind : List Nat} {words later : List UInt64}

theorem append (first : IsDraws sizes words places) (second : IsDraws more later behind) :
    IsDraws (sizes ++ more) (words ++ later) (places ++ behind) := by
  induction first with
  | nil => exact second
  | cons draw _ ih =>
      rw [List.append_assoc]
      exact .cons draw ih

/-- Every draw takes a word. -/
theorem length_le (draws : IsDraws sizes words places) : sizes.length ≤ words.length := by
  induction draws with
  | nil => exact Nat.le_refl 0
  | cons draw _ ih =>
      have some := draw.length_pos
      rw [List.length_cons, List.length_append]
      omega

/-- A refused word in front changes nothing. -/
theorem refuse {size : Nat} {word : UInt64} (refused : accepts (UInt64.ofNat size) word = false)
    (draws : IsDraws (size :: sizes) words places) :
    IsDraws (size :: sizes) (word :: words) places := by
  cases draws with
  | cons draw draws => exact .cons (.refuse refused draw) draws

/-- With only as many words as draws every draw takes one. -/
theorem exists_singleton {size : Nat} {word : UInt64}
    (draws : IsDraws (size :: sizes) (word :: words) places)
    (number : words.length = sizes.length) :
    ∃ place later, places = place :: later ∧ IsDraw (UInt64.ofNat size) [word] place ∧
      IsDraws sizes words later := by
  generalize whole : word :: words = taken at draws
  cases draws with
  | @cons _ place _ later front back draw draws =>
      have some := draw.length_pos
      have enough := draws.length_le
      have total : words.length + 1 = front.length + back.length := by
        rw [← List.length_append, ← whole, List.length_cons]
      obtain ⟨only, rfl⟩ := List.length_eq_one_iff.mp (show front.length = 1 by omega)
      cases whole
      exact ⟨place, later, rfl, draw, draws⟩

theorem cons_iff {size place : Nat} {word : UInt64} (number : words.length = sizes.length) :
    IsDraws (size :: sizes) (word :: words) (place :: places) ↔
      IsDraw (UInt64.ofNat size) [word] place ∧ IsDraws sizes words places := by
  constructor
  · intro draws
    obtain ⟨_, _, same, draw, draws⟩ := draws.exists_singleton number
    cases same
    exact ⟨draw, draws⟩
  · rintro ⟨draw, draws⟩
    exact .cons draw draws

end IsDraws

/-! ## Without the refused words -/

namespace Accepted

variable {sizes places : List Nat} {words kept later : List UInt64}

theorem length_kept (parts : Accepted sizes words kept) : kept.length = sizes.length := by
  induction parts with
  | nil => rfl
  | accept _ _ ih => exact congrArg Nat.succ ih
  | refuse _ _ ih => exact ih

/-- Of the words of one draw the last is accepted, and it alone draws the
same. -/
theorem exists_of_draw {size place : Nat} (draw : IsDraw (UInt64.ofNat size) words place)
    (parts : Accepted sizes later kept) :
    ∃ last, Accepted (size :: sizes) (words ++ later) (last :: kept) ∧
      IsDraw (UInt64.ofNat size) [last] place := by
  induction draw with
  | @accept word accepted => exact ⟨word, .accept accepted parts, .accept accepted⟩
  | refuse refused _ ih =>
      obtain ⟨last, parts, draw⟩ := ih
      exact ⟨last, .refuse refused parts, draw⟩

theorem exists_of_draws (draws : IsDraws sizes words places) :
    ∃ kept, Accepted sizes words kept ∧ IsDraws sizes kept places := by
  induction draws with
  | nil => exact ⟨[], .nil, .nil⟩
  | cons draw _ ih =>
      obtain ⟨kept, parts, draws⟩ := ih
      obtain ⟨last, parts, alone⟩ := exists_of_draw draw parts
      exact ⟨last :: kept, parts, .cons alone draws⟩

/-- What the accepted words draw by themselves is drawn with the refused words
between them as well. -/
theorem draws (parts : Accepted sizes words kept) (alone : IsDraws sizes kept places) :
    IsDraws sizes words places := by
  induction parts generalizing places with
  | nil => exact alone
  | accept _ rest ih =>
      obtain ⟨place, later, rfl, draw, alone⟩ := alone.exists_singleton rest.length_kept
      exact .cons draw (ih alone)
  | refuse refused _ ih => exact (ih alone).refuse refused

end Accepted

/-! ## Draws from a script -/

namespace Script

variable {n : UInt64} {words : List UInt64} {place : Nat} {s later : Script}

theorem drawBelow_of_accepted {word : UInt64} (accepted : accepts n word = true)
    (ahead : List UInt64) (drawn : Nat) :
    drawBelow n (⟨word :: ahead, drawn⟩ : Script) = (select n word, ⟨ahead, drawn + 1⟩) := by
  change (if accepts n word = true then _ else _) = _
  rw [if_pos accepted]

/-- A refused word leaves no trace but in the count. -/
theorem drawBelow_of_refused {word : UInt64} (refused : accepts n word = false)
    (ahead : List UInt64) (drawn : Nat) :
    drawBelow n (⟨word :: ahead, drawn⟩ : Script) =
      drawBelow n (⟨ahead, drawn + 1⟩ : Script) := by
  change (if accepts n word = true then _ else _) = _
  rw [if_neg (Bool.eq_false_iff.mp refused)]
  rfl

/-- What is drawn from a script is settled by the words that the draw takes. -/
theorem drawBelow_eq (draw : IsDraw n words place) (takes : Takes s words later) :
    drawBelow n s = (place, later) := by
  induction draw generalizing s with
  | accept accepted =>
      rcases s with ⟨_ | ⟨word, ahead⟩, drawn⟩
      · cases takes with
        | cons rest =>
            cases rest
            rfl
      · cases takes with
        | cons rest =>
            cases rest
            exact drawBelow_of_accepted accepted ahead drawn
  | refuse refused _ ih =>
      rcases s with ⟨_ | ⟨word, ahead⟩, drawn⟩
      · cases takes with
        | cons rest =>
            -- Zero is never refused.
            exact absurd (accepts_zero n) (Bool.eq_false_iff.mp refused)
      · cases takes with
        | cons rest =>
            exact (drawBelow_of_refused refused ahead drawn).trans (ih rest)

/-- Every draw from a script ends: of the words that are still ahead it takes
all at most, and one zero. -/
theorem exists_draw (n : UInt64) (s : Script) :
    ∃ words place later, IsDraw n words place ∧ Takes s words later ∧
      words.length + later.ahead.length ≤ s.ahead.length + 1 := by
  rcases s with ⟨ahead, drawn⟩
  induction ahead generalizing drawn with
  | nil => exact ⟨[0], _, _, .accept (accepts_zero n), .cons (.nil _), Nat.le_refl 1⟩
  | cons word ahead ih =>
      cases decided : accepts n word with
      | true =>
          refine ⟨[word], _, ⟨ahead, drawn + 1⟩, .accept decided, .cons (.nil _), ?_⟩
          simp only [List.length_cons, List.length_nil]
          omega
      | false =>
          obtain ⟨words, place, later, draw, takes, bound⟩ := ih (drawn + 1)
          refine ⟨word :: words, place, later, .refuse decided draw, .cons takes, ?_⟩
          simp only [List.length_cons] at bound ⊢
          omega

/-- So do several draws, with as many zeros at most as there are draws. -/
theorem exists_draws (sizes : List Nat) (s : Script) :
    ∃ words places later, IsDraws sizes words places ∧ Takes s words later ∧
      words.length + later.ahead.length ≤ s.ahead.length + sizes.length := by
  induction sizes generalizing s with
  | nil => exact ⟨[], [], s, .nil, .nil s, by simp⟩
  | cons size sizes ih =>
      obtain ⟨words, place, between, draw, takes, bound⟩ := exists_draw (UInt64.ofNat size) s
      obtain ⟨more, places, later, draws, takes', bound'⟩ := ih between
      refine ⟨words ++ more, place :: places, later, .cons draw draws, takes.append takes', ?_⟩
      rw [List.length_append, List.length_cons]
      omega

/-- Behind the words of a script the first place is drawn. -/
theorem place_eq_zero (exhausted : s.ahead = []) (draw : IsDraw n words place)
    (takes : Takes s words later) : place = 0 ∧ later.ahead = [] := by
  have drawn := drawBelow_eq draw takes
  rw [show s = ⟨[], s.drawn⟩ from congrArg (Script.mk · s.drawn) exhausted] at drawn
  cases drawn
  exact ⟨by simp [select, product], rfl⟩

theorem places_eq_zero {sizes places : List Nat} (exhausted : s.ahead = [])
    (draws : IsDraws sizes words places) (takes : Takes s words later) :
    places = .replicate sizes.length 0 := by
  induction draws generalizing s with
  | nil => rfl
  | cons draw _ ih =>
      obtain ⟨between, front, back⟩ := takes.exists_of_append
      obtain ⟨rfl, exhausted⟩ := place_eq_zero exhausted draw front
      rw [ih exhausted back, List.length_cons, List.replicate_succ]

end Script

end ReservationLoad.Chance

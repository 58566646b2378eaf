/-!
# Sources of random words

A source hands out 64-bit words one after another.  What is drawn from a
source depends on its words alone, so the same code serves the cipher of
`ReservationLoad.Chance.Cipher` and a list of words written down in advance.
-/

namespace ReservationLoad.Chance

/-- A state from which 64-bit words are drawn.

`patience` bounds how many words in a row are worth refusing: a source that
has handed out so many words repeats itself. -/
class WordSource (σ : Type) where
  next : σ → UInt64 × σ
  patience : σ → Nat

/-- Words written down in advance, followed by zeros for ever. -/
structure Script where
  ahead : List UInt64
  drawn : Nat

namespace Script

def ofList (words : List UInt64) : Script := ⟨words, 0⟩

def next (s : Script) : UInt64 × Script :=
  match s.ahead with
  | [] => (0, ⟨[], s.drawn + 1⟩)
  | word :: later => (word, ⟨later, s.drawn + 1⟩)

/-- Behind the words still ahead there are only zeros. -/
instance : WordSource Script := ⟨next, fun s => s.ahead.length⟩

end Script

end ReservationLoad.Chance

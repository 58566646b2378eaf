import ReservationLoad.Chance.WordSource

/-!
# The stream cipher as a source of words

Random words come from the ChaCha stream cipher with twelve rounds.  Its
state is sixteen 32-bit words: four constants, a key of eight words, a 64-bit
block counter and two zeros.  A block is the state after twelve rounds, added
to the state before them, and blocks follow one another as the counter
advances.  A 64-bit word is made of two successive 32-bit words, the lower
half first.
-/

namespace ReservationLoad.Chance

/-- The sixteen words of a cipher block. -/
structure Block where
  w0 : UInt32
  w1 : UInt32
  w2 : UInt32
  w3 : UInt32
  w4 : UInt32
  w5 : UInt32
  w6 : UInt32
  w7 : UInt32
  w8 : UInt32
  w9 : UInt32
  w10 : UInt32
  w11 : UInt32
  w12 : UInt32
  w13 : UInt32
  w14 : UInt32
  w15 : UInt32

/-- Rotation to the left by fewer than 32 places. -/
def rotateLeft (word count : UInt32) : UInt32 :=
  (word <<< count) ||| (word >>> (32 - count))

/-- The mixing of four words. -/
def quarterRound (a b c d : UInt32) : UInt32 × UInt32 × UInt32 × UInt32 :=
  let a := a + b
  let d := rotateLeft (d ^^^ a) 16
  let c := c + d
  let b := rotateLeft (b ^^^ c) 12
  let a := a + b
  let d := rotateLeft (d ^^^ a) 8
  let c := c + d
  let b := rotateLeft (b ^^^ c) 7
  (a, b, c, d)

namespace Block

/-- One round over the columns and one over the diagonals. -/
def doubleRound (s : Block) : Block :=
  let (w0, w4, w8, w12) := quarterRound s.w0 s.w4 s.w8 s.w12
  let (w1, w5, w9, w13) := quarterRound s.w1 s.w5 s.w9 s.w13
  let (w2, w6, w10, w14) := quarterRound s.w2 s.w6 s.w10 s.w14
  let (w3, w7, w11, w15) := quarterRound s.w3 s.w7 s.w11 s.w15
  let (w0, w5, w10, w15) := quarterRound w0 w5 w10 w15
  let (w1, w6, w11, w12) := quarterRound w1 w6 w11 w12
  let (w2, w7, w8, w13) := quarterRound w2 w7 w8 w13
  let (w3, w4, w9, w14) := quarterRound w3 w4 w9 w14
  ⟨w0, w1, w2, w3, w4, w5, w6, w7, w8, w9, w10, w11, w12, w13, w14, w15⟩

/-- Word by word addition. -/
def add (s t : Block) : Block :=
  ⟨s.w0 + t.w0, s.w1 + t.w1, s.w2 + t.w2, s.w3 + t.w3,
    s.w4 + t.w4, s.w5 + t.w5, s.w6 + t.w6, s.w7 + t.w7,
    s.w8 + t.w8, s.w9 + t.w9, s.w10 + t.w10, s.w11 + t.w11,
    s.w12 + t.w12, s.w13 + t.w13, s.w14 + t.w14, s.w15 + t.w15⟩

/-- Twelve rounds, added to the block they started from. -/
def scramble (s : Block) : Block :=
  let twelveRounds :=
    s.doubleRound.doubleRound.doubleRound.doubleRound.doubleRound.doubleRound
  twelveRounds.add s

/-- The words of a block in pairs, the first of a pair being the lower
half. -/
def words (s : Block) : List UInt64 :=
  let join := fun (low high : UInt32) => low.toUInt64 ||| (high.toUInt64 <<< 32)
  [join s.w0 s.w1, join s.w2 s.w3, join s.w4 s.w5, join s.w6 s.w7,
    join s.w8 s.w9, join s.w10 s.w11, join s.w12 s.w13, join s.w14 s.w15]

end Block

/-- The key of a stream. -/
structure Key where
  k0 : UInt32
  k1 : UInt32
  k2 : UInt32
  k3 : UInt32
  k4 : UInt32
  k5 : UInt32
  k6 : UInt32
  k7 : UInt32

/-- The block of a key at a block counter. -/
def Key.block (k : Key) (counter : UInt64) : Block :=
  Block.scramble
    ⟨0x61707865, 0x3320646e, 0x79622d32, 0x6b206574,
      k.k0, k.k1, k.k2, k.k3, k.k4, k.k5, k.k6, k.k7,
      counter.toUInt32, (counter >>> 32).toUInt32, 0, 0⟩

/-- A position in the stream of a key: the words left of the current block,
and the counter of the next one. -/
structure Cipher where
  key : Key
  counter : UInt64
  ahead : List UInt64

namespace Cipher

/-- The start of the stream of a key. -/
def ofKey (key : Key) : Cipher := ⟨key, 0, []⟩

def next (c : Cipher) : UInt64 × Cipher :=
  match c.ahead with
  | word :: later => (word, { c with ahead := later })
  | [] =>
    match (c.key.block c.counter).words with
    | word :: later => (word, { c with counter := c.counter + 1, ahead := later })
    | [] => (0, { c with counter := c.counter + 1 })

/-- The block counter returns to its start after `2 ^ 64` blocks of eight
words. -/
instance : WordSource Cipher := ⟨next, fun _ => 8 * UInt64.size⟩

/-- One step of the linear congruential sequence that stretches a seed. -/
def advanceSeed (state : UInt64) : UInt64 :=
  state * 6364136223846793005 + 11634580027462260723

/-- The key word of a state of that sequence: some of its upper bits, turned
to the right by as many places as its uppermost five bits say. -/
def keyWord (state : UInt64) : UInt32 :=
  let mixed := (((state >>> 18) ^^^ state) >>> 27).toUInt32
  let turn := (state >>> 59).toUInt32
  if turn = 0 then mixed else (mixed >>> turn) ||| (mixed <<< (32 - turn))

/-- The stream that belongs to a 64-bit seed. -/
def ofSeed (seed : UInt64) : Cipher :=
  let s0 := advanceSeed seed
  let s1 := advanceSeed s0
  let s2 := advanceSeed s1
  let s3 := advanceSeed s2
  let s4 := advanceSeed s3
  let s5 := advanceSeed s4
  let s6 := advanceSeed s5
  let s7 := advanceSeed s6
  ofKey ⟨keyWord s0, keyWord s1, keyWord s2, keyWord s3,
    keyWord s4, keyWord s5, keyWord s6, keyWord s7⟩

end Cipher

end ReservationLoad.Chance

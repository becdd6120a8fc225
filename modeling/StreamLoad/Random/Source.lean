/-!
# Sources of random words

A source gives 32-bit words one after the other. A 64-bit word is two of them,
low half first, and nothing is skipped. What is drawn from a source is stated
for any source; the one that runs is the key stream of ChaCha with twelve
rounds: the sixteen words of block 0, then those of block 1, and so on. A 64-bit
seed is stretched to the key of eight words by a permuted congruential
generator.
-/

namespace StreamLoad

/-- A state from which 32-bit words are taken one by one. -/
class WordSource (Source : Type) where
  nextWord : Source -> UInt32 × Source

namespace WordSource

variable {Source : Type} [WordSource Source]

/-- Take a 64-bit word: its low half first, then its high half. -/
def nextLong (source : Source) : UInt64 × Source :=
  let low := nextWord source
  let high := nextWord low.2
  (low.1.toUInt64 ||| (high.1.toUInt64 <<< 32), high.2)

/-- The source after a number of words. -/
def skip : Nat -> Source -> Source
  | 0, source => source
  | count + 1, source => skip count (nextWord source).2

@[simp] theorem skip_zero (source : Source) :
    skip 0 source = source := rfl

@[simp] theorem skip_succ (count : Nat) (source : Source) :
    skip (count + 1) source = skip count (nextWord source).2 := rfl

theorem nextLong_snd (source : Source) :
    (nextLong source).2 = skip 2 source := rfl

end WordSource

/-! ## The seeded key stream -/

/-- Rotate a word to the left by fewer than 32 places. -/
def rotateLeft (word places : UInt32) : UInt32 :=
  (word <<< places) ||| (word >>> (32 - places))

/-- Rotate a word to the right by fewer than 32 places. -/
def rotateRight (word places : UInt32) : UInt32 :=
  (word >>> places) ||| (word <<< ((32 - places) % 32))

namespace SeedExpansion

/-- One step of the linear congruence behind the key words. -/
def advance (state : UInt64) : UInt64 :=
  state * 6364136223846793005 + 11634580027462260723

/-- The key word of a state: its high bits, folded and rotated by the five
on top. -/
def output (state : UInt64) : UInt32 :=
  rotateRight (((state >>> 18) ^^^ state) >>> 27).toUInt32
    (state >>> 59).toUInt32

/-- The first key words that follow a state. -/
def words : Nat -> UInt64 -> List UInt32
  | 0, _ => []
  | count + 1, state => output (advance state) :: words count (advance state)

theorem length_words (count : Nat) (state : UInt64) :
    (words count state).length = count := by
  induction count generalizing state with
  | zero => rfl
  | succ count hypothesis => simp [words, hypothesis]

/-- The eight key words of a seed. -/
def key (seed : UInt64) : Vector UInt32 8 :=
  ⟨(words 8 seed).toArray, by simp [length_words]⟩

end SeedExpansion

/-- The sixteen words on which the rounds work. -/
abbrev BlockState : Type := Vector UInt32 16

namespace BlockState

/-- Mix four words of a block. -/
def quarterRound (first second third fourth : Fin 16) (state : BlockState) :
    BlockState :=
  let state := state.set first (state[first] + state[second])
  let state :=
    state.set fourth (rotateLeft (state[fourth] ^^^ state[first]) 16)
  let state := state.set third (state[third] + state[fourth])
  let state :=
    state.set second (rotateLeft (state[second] ^^^ state[third]) 12)
  let state := state.set first (state[first] + state[second])
  let state :=
    state.set fourth (rotateLeft (state[fourth] ^^^ state[first]) 8)
  let state := state.set third (state[third] + state[fourth])
  state.set second (rotateLeft (state[second] ^^^ state[third]) 7)

/-- A round over the columns and a round over the diagonals. -/
def doubleRound (state : BlockState) : BlockState :=
  let state := quarterRound 0 4 8 12 state
  let state := quarterRound 1 5 9 13 state
  let state := quarterRound 2 6 10 14 state
  let state := quarterRound 3 7 11 15 state
  let state := quarterRound 0 5 10 15 state
  let state := quarterRound 1 6 11 12 state
  let state := quarterRound 2 7 8 13 state
  quarterRound 3 4 9 14 state

/-- Apply the double round a number of times. -/
def doubleRounds : Nat -> BlockState -> BlockState
  | 0, state => state
  | count + 1, state => doubleRounds count (doubleRound state)

/-- The words before the rounds: constants, key, block number, stream zero. -/
def initial (key : Vector UInt32 8) (number : UInt64) : BlockState :=
  #v[0x61707865, 0x3320646e, 0x79622d32, 0x6b206574,
    key[0], key[1], key[2], key[3], key[4], key[5], key[6], key[7],
    number.toUInt32, (number >>> 32).toUInt32, 0, 0]

/-- A block of the key stream: the mixed words plus the words before mixing. -/
def block (key : Vector UInt32 8) (number : UInt64) : BlockState :=
  let before := initial key number
  Vector.zipWith (· + ·) before (doubleRounds 6 before)

end BlockState

/-- A place in the key stream of a key: a block and a position in it. -/
structure KeyStream where
  key : Vector UInt32 8
  number : UInt64
  words : BlockState
  position : Fin 16
  deriving DecidableEq

namespace KeyStream

/-- The front of a block of a key's stream. -/
def atBlock (key : Vector UInt32 8) (number : UInt64) : KeyStream :=
  { key, number, words := BlockState.block key number, position := 0 }

/-- The key stream of a seed, from its first word. -/
def seeded (seed : UInt64) : KeyStream :=
  atBlock (SeedExpansion.key seed) 0

/-- Go one word further, into the next block behind the last word of one. -/
def advance (stream : KeyStream) : KeyStream :=
  if stream.position = 15 then
    atBlock stream.key (stream.number + 1)
  else
    { stream with position := stream.position + 1 }

instance : WordSource KeyStream where
  nextWord stream := (stream.words[stream.position], stream.advance)

end KeyStream
end StreamLoad

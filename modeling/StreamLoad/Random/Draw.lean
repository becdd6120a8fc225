import StreamLoad.Fault
import StreamLoad.Random.Source

/-!
# Even draws from random words

A letter or a number up to a bound is the high part of a word times the number
of choices. Words whose low part is too large are passed over, so that every
choice is met by equally many accepted words. A source that has every word
passed over never answers.
-/

namespace StreamLoad

/-- How a word is taken from a source, and what an accepted word stands for. -/
structure Sampler (Source Word Value : Type) where
  next : Source -> Word × Source
  accept : Word -> Option Value

namespace Sampler

/-- Take words until one is accepted. -/
def draw
    {Source Word Value : Type}
    (sampler : Sampler Source Word Value)
    (source : Source) : Option (Value × Source) :=
  match sampler.accept (sampler.next source).1 with
  | some value => some (value, (sampler.next source).2)
  | none => sampler |>.draw (sampler.next source).2
partial_fixpoint

end Sampler

/-- The number of letters. -/
def alphabetSize : Nat := 26

/-- The first letter, `a`. -/
def firstLetter : UInt8 := 97

/-- The byte is a lower-case letter. -/
def IsLetter (byte : UInt8) : Prop :=
  97 ≤ byte.toNat ∧ byte.toNat ≤ 122

instance (byte : UInt8) : Decidable (IsLetter byte) :=
  inferInstanceAs (Decidable (_ ∧ _))

/-- The letter of a word, or none for a word that is passed over. -/
def letterOfWord (word : UInt32) : Option UInt8 :=
  let product := word.toNat * alphabetSize
  if product % UInt32.size < UInt32.size - UInt32.size % alphabetSize then
    some (firstLetter + UInt8.ofNat (product / UInt32.size))
  else
    none

/-- The number of zero bits in front of a positive 64-bit number. -/
def leadingZeros (number : UInt64) : Nat :=
  63 - Nat.log2 number.toNat

/-- The number from one to a bound that a word gives, or none for a word that
is passed over. -/
def numberOfWord (bound word : UInt64) : Option UInt64 :=
  let product := word.toNat * bound.toNat
  if product % UInt64.size < bound.toNat <<< leadingZeros bound then
    some (1 + UInt64.ofNat (product / UInt64.size))
  else
    none

variable {Source : Type} [WordSource Source]

/-- How lower-case letters are drawn. -/
def lowerCase : Sampler Source UInt32 UInt8 :=
  { next := WordSource.nextWord, accept := letterOfWord }

/-- Draw a lower-case letter. -/
def drawLetter (source : Source) : Option (UInt8 × Source) :=
  lowerCase.draw source

/-- How numbers from one to a bound are drawn. -/
def numbersUpTo (bound : UInt64) : Sampler Source UInt64 UInt64 :=
  { next := WordSource.nextLong, accept := numberOfWord bound }

/-- Draw a number from one to a bound. A bound of zero is a fault and takes no
word from the source. -/
def drawUpTo (bound : UInt64) (source : Source) :
    Except Halt UInt64 × Source :=
  if bound = 0 then
    (.error (.fault .emptyRange), source)
  else
    match (numbersUpTo bound).draw source with
    | some (number, rest) => (.ok number, rest)
    | none => (.error .endless, source)

/-- The next letters of a source and the source behind them. -/
def letters : Nat -> Source -> Option (List UInt8 × Source)
  | 0, source => some ([], source)
  | count + 1, source =>
      match drawLetter source with
      | none => none
      | some (letter, rest) =>
          match letters count rest with
          | none => none
          | some (more, final) => some (letter :: more, final)

/-- Add letters in front of those already drawn, the latest first. -/
def collectLetters :
    Nat -> List UInt8 -> Source -> Option (List UInt8 × Source)
  | 0, drawn, source => some (drawn.reverse, source)
  | count + 1, drawn, source =>
      match drawLetter source with
      | none => none
      | some (letter, rest) => collectLetters count (letter :: drawn) rest

/-- Fill a page of some size with random letters. -/
def fillPage (size : Nat) (source : Source) : Option (List UInt8 × Source) :=
  collectLetters size [] source

theorem collectLetters_eq_letters
    (count : Nat)
    (drawn : List UInt8)
    (source : Source) :
    collectLetters count drawn source =
      (letters count source).map
        fun result => (drawn.reverse ++ result.1, result.2) := by
  induction count generalizing drawn source with
  | zero => simp [collectLetters, letters]
  | succ count hypothesis =>
      unfold collectLetters letters
      cases drawLetter source with
      | none => rfl
      | some first =>
          obtain ⟨letter, rest⟩ := first
          simp only [hypothesis]
          cases letters count rest with
          | none => rfl
          | some result => simp

/-- Filling a page takes the source's next letters. -/
theorem fillPage_eq_letters (size : Nat) (source : Source) :
    fillPage size source = letters size source := by
  rw [fillPage, collectLetters_eq_letters]
  cases letters size source <;> simp

end StreamLoad

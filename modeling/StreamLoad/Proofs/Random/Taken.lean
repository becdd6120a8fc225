import Mathlib.Data.List.Forall2
import StreamLoad.Proofs.Random.Draw

/-!
# The words that a draw takes

A number is drawn by taking 64-bit words from the source up to the first that is
not passed over, and nothing behind it. Whatever words are to be given, there is
a source that gives them.
-/

namespace StreamLoad

namespace WordSource

variable {Source : Type} [WordSource Source]

/-- The next 64-bit words of a source and the source behind them. -/
def longs : Nat -> Source -> List UInt64 × Source
  | 0, source => ([], source)
  | count + 1, source =>
      let later := longs count (nextLong source).2
      ((nextLong source).1 :: later.1, later.2)

/-- Some 64-bit words are the next of a source, and it is left in some state
behind them. -/
def Gives (source : Source) (words : List UInt64) (rest : Source) : Prop :=
  longs words.length source = (words, rest)

theorem gives_nil_iff {source rest : Source} :
    Gives source [] rest ↔ source = rest := by
  simp [Gives, longs]

theorem gives_cons_iff
    {source rest : Source}
    {word : UInt64}
    {words : List UInt64} :
    Gives source (word :: words) rest ↔
      (nextLong source).1 = word ∧ Gives (nextLong source).2 words rest := by
  simp [Gives, longs, Prod.ext_iff, and_assoc]

theorem gives_append_iff
    {source rest : Source}
    {first second : List UInt64} :
    Gives source (first ++ second) rest ↔
      ∃ middle, Gives source first middle ∧ Gives middle second rest := by
  induction first generalizing source with
  | nil => simp [gives_nil_iff]
  | cons word first hypothesis =>
      rw [List.cons_append, gives_cons_iff, hypothesis]
      simp only [gives_cons_iff, and_assoc, exists_and_left]

end WordSource

/-- Words decide a number: the last gives it, and those in front of it are
passed over. -/
def Decides (bound : UInt64) (words : List UInt64) (number : UInt64) : Prop :=
  ∃ passed last, words = passed ++ [last] ∧
    (∀ word ∈ passed, numberOfWord bound word = none) ∧
      numberOfWord bound last = some number

namespace Decides

variable {bound number word : UInt64} {words : List UInt64}

theorem of_accept
    (accepted : numberOfWord bound word = some number) :
    Decides bound [word] number :=
  ⟨[], word, rfl, nofun, accepted⟩

theorem of_passed
    (passed : numberOfWord bound word = none)
    (later : Decides bound words number) :
    Decides bound (word :: words) number := by
  obtain ⟨more, last, rfl, all, accepted⟩ := later
  exact ⟨word :: more, last, rfl, List.forall_mem_cons.mpr ⟨passed, all⟩,
    accepted⟩

/-- The first word decides or is passed over. -/
theorem cons_cases
    (decides : Decides bound (word :: words) number) :
    (numberOfWord bound word = some number ∧ words = []) ∨
      (numberOfWord bound word = none ∧ Decides bound words number) := by
  obtain ⟨passed, last, equal, all, accepted⟩ := decides
  cases passed with
  | nil =>
      cases equal
      exact .inl ⟨accepted, rfl⟩
  | cons first passed =>
      cases equal
      obtain ⟨isPassed, others⟩ := List.forall_mem_cons.mp all
      exact .inr ⟨isPassed, passed, last, rfl, others, accepted⟩

theorem ne_nil (decides : Decides bound words number) : words ≠ [] := by
  obtain ⟨passed, last, rfl, _⟩ := decides
  exact List.append_ne_nil_of_right_ne_nil passed (List.cons_ne_nil last [])

theorem bound_ne_zero (decides : Decides bound words number) : bound ≠ 0 := by
  obtain ⟨passed, last, _, _, accepted⟩ := decides
  exact ne_zero_of_numberOfWord accepted

end Decides

variable {Source : Type} [WordSource Source] {bound number : UInt64}
  {source rest : Source}

/-- What is drawn has been decided by the next words of the source. -/
theorem exists_decides_of_draw
    (drawn : (numbersUpTo bound).draw source = some (number, rest)) :
    ∃ words, Decides bound words number ∧
      WordSource.Gives source words rest := by
  refine Sampler.draw.partial_correctness (numbersUpTo bound)
    (fun source result => ∃ words, Decides bound words result.1 ∧
      WordSource.Gives source words result.2) ?_ source (number, rest) drawn
  intro continued hypothesis source result step
  split at step
  next value accepted =>
    cases step
    exact ⟨_, .of_accept accepted,
      WordSource.gives_cons_iff.mpr ⟨rfl, WordSource.gives_nil_iff.mpr rfl⟩⟩
  next passed =>
    obtain ⟨words, decides, gives⟩ := hypothesis _ _ step
    exact ⟨_, decides.of_passed passed,
      WordSource.gives_cons_iff.mpr ⟨rfl, gives⟩⟩

theorem draw_of_decides
    {words : List UInt64}
    (decides : Decides bound words number)
    (gives : WordSource.Gives source words rest) :
    (numbersUpTo bound).draw source = some (number, rest) := by
  induction words generalizing source with
  | nil => exact absurd rfl decides.ne_nil
  | cons word words hypothesis =>
      obtain ⟨first, later⟩ := WordSource.gives_cons_iff.mp gives
      rcases decides.cons_cases with ⟨accepted, rfl⟩ | ⟨passed, decided⟩
      · rw [← first] at accepted
        rw [(numbersUpTo bound).draw_of_accept accepted]
        exact congrArg (fun rest => some (number, rest))
          (WordSource.gives_nil_iff.mp later)
      · rw [← first] at passed
        rw [(numbersUpTo bound).draw_of_passed passed]
        exact hypothesis decided later

/-- A number is drawn exactly when the next words of the source decide it, and
these are the words that are taken. -/
theorem drawUpTo_eq_ok_iff :
    drawUpTo bound source = (.ok number, rest) ↔
      ∃ words, Decides bound words number ∧
        WordSource.Gives source words rest := by
  unfold drawUpTo
  constructor
  · intro drawn
    split at drawn
    next => cases drawn
    next nonzero =>
      split at drawn
      next found =>
        cases drawn
        exact exists_decides_of_draw found
      next => cases drawn
  · rintro ⟨words, decides, gives⟩
    rw [if_neg decides.bound_ne_zero, draw_of_decides decides gives]

/-- A source of given 32-bit words, and of zeros behind them. -/
structure Tape where
  words : List UInt32

namespace Tape

instance : WordSource Tape where
  nextWord tape := (tape.words.headD 0, { words := tape.words.tail })

/-- The tape of some 64-bit words. -/
def ofLongs (longs : List UInt64) : Tape :=
  { words := longs.flatMap fun long : UInt64 =>
      [long.toUInt32, (long >>> 32).toUInt32] }

/-- The two halves of a word make up the word. -/
theorem join_halves (word : UInt64) :
    word.toUInt32.toUInt64 ||| ((word >>> 32).toUInt32.toUInt64 <<< 32) =
      word := by
  have bound := word.toNat_lt
  have low : word.toUInt32.toUInt64.toNat = word.toNat % 2 ^ 32 := rfl
  have shifted : (word >>> 32).toNat = word.toNat / 2 ^ 32 := by
    rw [UInt64.toNat_shiftRight, Nat.shiftRight_eq_div_pow]
    rfl
  have high : (word >>> 32).toUInt32.toUInt64.toNat =
      word.toNat / 2 ^ 32 := by
    rw [UInt32.toNat_toUInt64, UInt64.toNat_toUInt32, shifted,
      Nat.mod_eq_of_lt (by omega)]
  have lifted : ((word >>> 32).toUInt32.toUInt64 <<< 32).toNat =
      (word.toNat / 2 ^ 32) <<< 32 := by
    rw [UInt64.toNat_shiftLeft, high, Nat.mod_eq_of_lt]
    · rfl
    · rw [show (32 : UInt64).toNat % 64 = 32 from rfl, Nat.shiftLeft_eq]
      omega
  apply UInt64.toNat_inj.mp
  rw [UInt64.toNat_or, low, lifted, Nat.or_comm,
    ← Nat.shiftLeft_add_eq_or_of_lt (Nat.mod_lt _ (by decide)),
    Nat.shiftLeft_eq]
  omega

theorem gives_ofLongs (words : List UInt64) :
    WordSource.Gives (ofLongs words) words (ofLongs []) := by
  induction words with
  | nil => exact WordSource.gives_nil_iff.mpr rfl
  | cons word words hypothesis =>
      exact WordSource.gives_cons_iff.mpr ⟨join_halves word, hypothesis⟩

end Tape
end StreamLoad

import Mathlib.Algebra.GroupWithZero.Nat
import StreamLoad.Proofs.Random.Draw

/-!
# The text that a source spells

A word stands for a letter, or is passed over when the low half of its product
with the number of letters is too large. The words of a source spell a text: the
letters that they stand for, one after the other. What is drawn from a source is
the text that it spells, and a letter is never drawn only if no word stands for
one from some word on. A key stream comes round to its first word, so this needs
that none of its words stands for a letter.
-/

namespace StreamLoad

/-- A word stands for a letter: the low half of its product with the number of
letters lies below the largest multiple of that number. -/
def StandsForLetter (word : UInt32) : Prop :=
  word.toNat * 26 % 2 ^ 32 < 2 ^ 32 - 2 ^ 32 % 26

instance (word : UInt32) : Decidable (StandsForLetter word) :=
  inferInstanceAs (Decidable (_ < _))

/-- The letter for which a word stands: as far behind the first letter as the
high half of its product with the number of letters. -/
def letterFor (word : UInt32) : UInt8 :=
  UInt8.ofNat (97 + word.toNat * 26 / 2 ^ 32)

theorem letterOfWord_eq (word : UInt32) :
    letterOfWord word =
      if StandsForLetter word then some (letterFor word) else none := by
  unfold letterFor
  rw [UInt8.ofNat_add]
  rfl

theorem letterOfWord_eq_some_iff {word : UInt32} {letter : UInt8} :
    letterOfWord word = some letter ↔
      StandsForLetter word ∧ letterFor word = letter := by
  simp [letterOfWord_eq]

theorem letterOfWord_eq_none_iff {word : UInt32} :
    letterOfWord word = none ↔ ¬StandsForLetter word := by
  simp [letterOfWord_eq]

/-- The text that some words spell. -/
def spelling (words : List UInt32) : List UInt8 :=
  (words.filter fun word => StandsForLetter word).map letterFor

@[simp] theorem spelling_nil : spelling [] = [] := rfl

@[simp] theorem spelling_cons_of_stands
    {word : UInt32}
    (stands : StandsForLetter word)
    (words : List UInt32) :
    spelling (word :: words) = letterFor word :: spelling words := by
  simp [spelling, stands]

@[simp] theorem spelling_cons_of_not
    {word : UInt32}
    (passed : ¬StandsForLetter word)
    (words : List UInt32) :
    spelling (word :: words) = spelling words := by
  simp [spelling, passed]

theorem spelling_append (first second : List UInt32) :
    spelling (first ++ second) = spelling first ++ spelling second := by
  simp [spelling]

namespace WordSource

variable {Source : Type} [WordSource Source]

/-- The next words of a source. -/
def words : Nat -> Source -> List UInt32
  | 0, _ => []
  | count + 1, source => (nextWord source).1 :: words count (nextWord source).2

@[simp] theorem words_zero (source : Source) : words 0 source = [] := rfl

@[simp] theorem words_succ (count : Nat) (source : Source) :
    words (count + 1) source =
      (nextWord source).1 :: words count (nextWord source).2 := rfl

theorem skip_add (first second : Nat) (source : Source) :
    skip (first + second) source = skip second (skip first source) := by
  induction first generalizing source with
  | zero => simp
  | succ first hypothesis =>
      rw [Nat.add_right_comm, skip_succ, skip_succ, hypothesis]

theorem words_add (first second : Nat) (source : Source) :
    words (first + second) source =
      words first source ++ words second (skip first source) := by
  induction first generalizing source with
  | zero => simp
  | succ first hypothesis =>
      rw [Nat.add_right_comm, words_succ, words_succ, hypothesis]
      rfl

/-- Some number of the next words of a source spell a text. -/
def Spells (source : Source) (text : List UInt8) : Prop :=
  ∃ count, spelling (words count source) = text

/-- Behind some word a source spells nothing: none of the words stands for a
letter. -/
def RunsDry (source : Source) : Prop :=
  ∃ taken, ∀ count, spelling (words count (skip taken source)) = []

theorem RunsDry.of_skip
    {source : Source}
    {taken : Nat}
    (dry : RunsDry (skip taken source)) : RunsDry source := by
  obtain ⟨more, silent⟩ := dry
  refine ⟨taken + more, ?_⟩
  rw [skip_add]
  exact silent

end WordSource

open WordSource

section Letters

variable {Source : Type} [WordSource Source] {source rest : Source}

/-- A letter is drawn by taking the words up to the first that stands for one,
which gives the letter. -/
theorem exists_taken_of_drawLetter
    {letter : UInt8}
    (drawn : drawLetter source = some (letter, rest)) :
    ∃ taken,
      rest = skip taken source ∧ spelling (words taken source) = [letter] := by
  refine Sampler.draw.partial_correctness lowerCase
    (fun source result => ∃ taken, result.2 = skip taken source ∧
      spelling (words taken source) = [result.1]) ?_
    source (letter, rest) drawn
  intro continued hypothesis source result step
  split at step
  next value accepted =>
    cases step
    obtain ⟨stands, rfl⟩ := letterOfWord_eq_some_iff.mp accepted
    exact ⟨1, rfl, spelling_cons_of_stands stands []⟩
  next passed =>
    have silent := letterOfWord_eq_none_iff.mp passed
    obtain ⟨taken, isRest, spelled⟩ := hypothesis _ _ step
    exact ⟨taken + 1, isRest, (spelling_cons_of_not silent _).trans spelled⟩

theorem exists_taken_of_letters
    {count : Nat}
    {body : List UInt8}
    (drawn : letters count source = some (body, rest)) :
    ∃ taken,
      rest = skip taken source ∧ spelling (words taken source) = body := by
  induction count generalizing source body with
  | zero =>
      cases drawn
      exact ⟨0, rfl, rfl⟩
  | succ count hypothesis =>
      obtain ⟨letter, next, more, first, later, rfl⟩ :=
        exists_of_letters_succ drawn
      obtain ⟨taken, rfl, spelled⟩ := exists_taken_of_drawLetter first
      obtain ⟨others, rfl, spelledMore⟩ := hypothesis later
      refine ⟨taken + others, (skip_add taken others source).symm, ?_⟩
      rw [words_add, spelling_append, spelled, spelledMore]
      rfl

/-- Letters are drawn past a word that stands for none. -/
theorem letters_of_passed
    (passed : ¬StandsForLetter (nextWord source).1)
    (count : Nat) :
    letters (count + 1) source = letters (count + 1) (nextWord source).2 := by
  have same : drawLetter source = drawLetter (nextWord source).2 :=
    lowerCase.draw_of_passed (letterOfWord_eq_none_iff.mpr passed)
  rw [letters_succ, letters_succ, same]

theorem letters_of_stands
    (stands : StandsForLetter (nextWord source).1)
    (count : Nat) :
    letters (count + 1) source =
      (letters count (nextWord source).2).map fun result =>
        (letterFor (nextWord source).1 :: result.1, result.2) := by
  have drawn : drawLetter source =
      some (letterFor (nextWord source).1, (nextWord source).2) :=
    lowerCase.draw_of_accept (letterOfWord_eq_some_iff.mpr ⟨stands, rfl⟩)
  rw [letters_succ, drawn]

/-- As many letters as some words spell are drawn, and they are what the words
spell. -/
theorem exists_letters_of_spelling
    {count : Nat}
    {text : List UInt8}
    (spelled : spelling (words count source) = text) :
    ∃ rest, letters text.length source = some (text, rest) := by
  induction count generalizing source text with
  | zero =>
      cases spelled
      exact ⟨source, rfl⟩
  | succ count hypothesis =>
      rw [words_succ] at spelled
      by_cases stands : StandsForLetter (nextWord source).1
      · rw [spelling_cons_of_stands stands] at spelled
        subst spelled
        obtain ⟨rest, drawn⟩ := hypothesis rfl
        refine ⟨rest, ?_⟩
        rw [List.length_cons, letters_of_stands stands, drawn]
        rfl
      · rw [spelling_cons_of_not stands] at spelled
        obtain ⟨rest, drawn⟩ := hypothesis spelled
        cases text with
        | nil => exact ⟨source, rfl⟩
        | cons letter text =>
            refine ⟨rest, ?_⟩
            rw [List.length_cons, letters_of_passed stands]
            exact drawn

/-- What a source spells is what is drawn from it. -/
theorem spells_iff {text : List UInt8} :
    Spells source text ↔
      ∃ rest, letters text.length source = some (text, rest) := by
  constructor
  · rintro ⟨count, spelled⟩
    exact exists_letters_of_spelling spelled
  · rintro ⟨rest, drawn⟩
    obtain ⟨taken, -, spelled⟩ := exists_taken_of_letters drawn
    exact ⟨taken, spelled⟩

/-- When no letter is drawn, no word stands for one. -/
theorem spelling_eq_nil_of_drawLetter
    (endless : drawLetter source = none)
    (count : Nat) : spelling (words count source) = [] := by
  cases spelled : spelling (words count source) with
  | nil => rfl
  | cons letter text =>
      obtain ⟨rest, drawn⟩ := exists_letters_of_spelling spelled
      rw [List.length_cons, letters_succ, endless] at drawn
      cases drawn

/-- Letters that are not all drawn leave a source in which no word stands for a
letter any more. -/
theorem runsDry_of_letters
    {count : Nat}
    (endless : letters count source = none) : RunsDry source := by
  induction count generalizing source with
  | zero => cases endless
  | succ count hypothesis =>
      cases drawn : drawLetter source with
      | none => exact ⟨0, spelling_eq_nil_of_drawLetter drawn⟩
      | some result =>
          obtain ⟨letter, next⟩ := result
          rw [letters_succ, drawn, Option.map_eq_none_iff] at endless
          obtain ⟨taken, rfl, -⟩ := exists_taken_of_drawLetter drawn
          exact (hypothesis endless).of_skip

end Letters

namespace KeyStream

variable (key : Vector UInt32 8) (number : UInt64)

/-- Behind the sixteen words of a block stands the next block. -/
theorem skip_block :
    skip 16 (atBlock key number) = atBlock key (number + 1) := by
  simp [nextWord, KeyStream.advance, atBlock]

theorem skip_blocks (count : Nat) :
    skip (16 * count) (atBlock key number) =
      atBlock key (number + UInt64.ofNat count) := by
  induction count with
  | zero => simp
  | succ count hypothesis =>
      rw [Nat.mul_succ, skip_add, hypothesis, skip_block, UInt64.ofNat_add,
        UInt64.add_assoc]
      rfl

/-- A key stream comes round after `2 ^ 64` blocks, as often as one likes. -/
theorem skip_rounds (rounds : Nat) :
    skip (16 * (2 ^ 64 * rounds)) (atBlock key number) =
      atBlock key number := by
  have round : UInt64.ofNat (2 ^ 64 * rounds) = 0 := by
    apply UInt64.toNat_inj.mp
    rw [UInt64.toNat_ofNat', Nat.mul_mod_right]
    rfl
  rw [skip_blocks, round, UInt64.add_zero]

/-- The key stream of a seed runs dry only if none of its words stands for a
letter. -/
theorem runsDry_seeded_iff {seed : UInt64} :
    RunsDry (seeded seed) ↔
      ∀ count, spelling (WordSource.words count (seeded seed)) = [] := by
  constructor
  · rintro ⟨taken, silent⟩ count
    have far : taken ≤ 16 * (2 ^ 64 * taken) := by omega
    have later := silent (16 * (2 ^ 64 * taken) - taken + count)
    rw [words_add, spelling_append, List.append_eq_nil_iff, ← skip_add,
      Nat.add_sub_cancel' far, seeded, skip_rounds] at later
    exact later.2
  · intro silent
    exact ⟨0, silent⟩

end KeyStream
end StreamLoad

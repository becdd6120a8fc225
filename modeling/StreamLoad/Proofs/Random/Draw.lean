import StreamLoad.Random.Draw

/-!
# What a draw gives

A drawn letter is a lower-case letter and a drawn number lies between one and
its bound. Letters are drawn consecutively: those of a sum of counts are
those of the first count and then, from the source behind them, those of the
second. A source that stops to yield letters has yielded some before.
-/

namespace StreamLoad

namespace Sampler

variable {Source Word Value : Type}

/-- What is drawn is what some accepted word stands for. -/
theorem exists_word_of_draw
    {sampler : Sampler Source Word Value}
    {source rest : Source}
    {value : Value}
    (drawn : sampler.draw source = some (value, rest)) :
    ∃ word, sampler.accept word = some value := by
  refine draw.partial_correctness sampler
    (fun _ result => ∃ word, sampler.accept word = some result.1) ?_
    source (value, rest) drawn
  intro continued hypothesis source result step
  split at step
  next accepted =>
    cases step
    exact ⟨_, accepted⟩
  next => exact hypothesis _ _ step

theorem draw_of_accept
    {sampler : Sampler Source Word Value}
    {source : Source}
    {value : Value}
    (accepted : sampler.accept (sampler.next source).1 = some value) :
    sampler.draw source = some (value, (sampler.next source).2) := by
  rw [draw, accepted]

/-- A word that is passed over leaves the draw to the words behind it. -/
theorem draw_of_passed
    {sampler : Sampler Source Word Value}
    {source : Source}
    (passed : sampler.accept (sampler.next source).1 = none) :
    sampler.draw source = sampler.draw (sampler.next source).2 := by
  rw [draw, passed]

end Sampler

/-- The high part of a word times a number of choices is one of them. -/
theorem mul_div_lt_of_lt
    {word choices size : Nat}
    (bound : word < size)
    (positive : 0 < choices) : word * choices / size < choices := by
  have order : word * choices < choices * size := by
    rw [Nat.mul_comm choices]
    exact Nat.mul_lt_mul_of_pos_right bound positive
  exact Nat.div_lt_of_lt_mul (by rwa [Nat.mul_comm size])

theorem isLetter_of_letterOfWord
    {word : UInt32}
    {letter : UInt8}
    (accepted : letterOfWord word = some letter) : IsLetter letter := by
  have choice : word.toNat * alphabetSize / UInt32.size < alphabetSize :=
    mul_div_lt_of_lt word.toNat_lt (by decide)
  unfold letterOfWord at accepted
  simp only [Option.ite_none_right_eq_some, Option.some.injEq] at accepted
  obtain ⟨_, rfl⟩ := accepted
  generalize word.toNat * alphabetSize / UInt32.size = index at choice
  unfold alphabetSize at choice
  unfold IsLetter firstLetter
  simp only [UInt8.toNat_add, UInt8.toNat_ofNat']
  rw [show (97 : UInt8).toNat = 97 from rfl]
  omega

theorem numberOfWord_bounds
    {bound word number : UInt64}
    (nonzero : bound ≠ 0)
    (accepted : numberOfWord bound word = some number) :
    1 ≤ number.toNat ∧ number.toNat ≤ bound.toNat := by
  have positive : 0 < bound.toNat :=
    Nat.pos_of_ne_zero fun zero => nonzero (UInt64.toNat_inj.mp zero)
  have choice : word.toNat * bound.toNat / UInt64.size < bound.toNat :=
    mul_div_lt_of_lt word.toNat_lt positive
  have boundSmall := bound.toNat_lt
  unfold numberOfWord at accepted
  simp only [Option.ite_none_right_eq_some, Option.some.injEq] at accepted
  obtain ⟨_, rfl⟩ := accepted
  generalize word.toNat * bound.toNat / UInt64.size = index at choice
  simp only [UInt64.toNat_add, UInt64.toNat_ofNat']
  rw [show (1 : UInt64).toNat = 1 from rfl]
  omega

/-- Without choices every word is passed over. -/
theorem ne_zero_of_numberOfWord
    {bound word number : UInt64}
    (accepted : numberOfWord bound word = some number) : bound ≠ 0 := by
  rintro rfl
  unfold numberOfWord at accepted
  simp only [Option.ite_none_right_eq_some] at accepted
  have below := accepted.1
  rw [show (0 : UInt64).toNat = 0 from rfl, Nat.zero_shiftLeft] at below
  exact absurd below (Nat.not_lt_zero _)

variable {Source : Type} [WordSource Source]

theorem isLetter_of_drawLetter
    {source rest : Source}
    {letter : UInt8}
    (drawn : drawLetter source = some (letter, rest)) : IsLetter letter := by
  obtain ⟨word, accepted⟩ := Sampler.exists_word_of_draw drawn
  exact isLetter_of_letterOfWord accepted

/-- A drawn number lies between one and its bound. -/
theorem drawUpTo_bounds
    {bound number : UInt64}
    {source rest : Source}
    (drawn : drawUpTo bound source = (.ok number, rest)) :
    1 ≤ number.toNat ∧ number.toNat ≤ bound.toNat := by
  unfold drawUpTo at drawn
  split at drawn
  next => cases drawn
  next nonzero =>
    split at drawn
    next found =>
      cases drawn
      obtain ⟨word, accepted⟩ := Sampler.exists_word_of_draw found
      exact numberOfWord_bounds nonzero accepted
    next => cases drawn

theorem drawUpTo_of_accept
    {bound number : UInt64}
    {source : Source}
    (accepted : numberOfWord bound (WordSource.nextLong source).1 =
      some number) :
    drawUpTo bound source =
      (.ok number, (WordSource.nextLong source).2) := by
  have drawn := (numbersUpTo bound).draw_of_accept accepted
  rw [drawUpTo, if_neg (ne_zero_of_numberOfWord accepted), drawn]
  rfl

@[simp] theorem letters_zero (source : Source) :
    letters 0 source = some ([], source) := rfl

theorem letters_succ (count : Nat) (source : Source) :
    letters (count + 1) source =
      match drawLetter source with
      | none => none
      | some (letter, rest) =>
          (letters count rest).map fun result =>
            (letter :: result.1, result.2) := by
  rw [letters]
  rcases drawLetter source with _ | ⟨letter, rest⟩
  · rfl
  · dsimp only
    rcases letters count rest with _ | ⟨more, final⟩ <;> rfl

/-- Letters are drawn when none of the next words is passed over. -/
theorem isSome_letters_of_accepted
    {count : Nat}
    {source : Source}
    (accepted : ∀ index < count,
      (letterOfWord
        (WordSource.nextWord (WordSource.skip index source)).1).isSome) :
    (letters count source).isSome := by
  induction count generalizing source with
  | zero => rfl
  | succ count hypothesis =>
      obtain ⟨letter, first⟩ :=
        Option.isSome_iff_exists.mp (accepted 0 (Nat.succ_pos count))
      have drawn : drawLetter source =
          some (letter, (WordSource.nextWord source).2) :=
        lowerCase.draw_of_accept first
      rw [letters_succ, drawn]
      have rest : (letters count (WordSource.nextWord source).2).isSome := by
        apply hypothesis
        intro index inside
        exact accepted (index + 1) (Nat.succ_lt_succ inside)
      simpa using rest

theorem exists_of_letters_succ
    {count : Nat}
    {source rest : Source}
    {drawn : List UInt8}
    (found : letters (count + 1) source = some (drawn, rest)) :
    ∃ letter next more,
      drawLetter source = some (letter, next) ∧
        letters count next = some (more, rest) ∧
        drawn = letter :: more := by
  rw [letters_succ] at found
  cases first : drawLetter source with
  | none => simp [first] at found
  | some result =>
      obtain ⟨letter, next⟩ := result
      simp only [first, Option.map_eq_some_iff] at found
      obtain ⟨⟨more, final⟩, later, equal⟩ := found
      cases equal
      exact ⟨letter, next, more, rfl, later, rfl⟩

theorem length_of_letters
    {count : Nat}
    {source rest : Source}
    {drawn : List UInt8}
    (found : letters count source = some (drawn, rest)) :
    drawn.length = count := by
  induction count generalizing source drawn with
  | zero =>
      cases found
      rfl
  | succ count hypothesis =>
      obtain ⟨letter, next, more, _, later, rfl⟩ :=
        exists_of_letters_succ found
      rw [List.length_cons, hypothesis later]

theorem isLetter_of_letters
    {count : Nat}
    {source rest : Source}
    {drawn : List UInt8}
    (found : letters count source = some (drawn, rest)) :
    ∀ letter ∈ drawn, IsLetter letter := by
  induction count generalizing source drawn with
  | zero =>
      cases found
      simp
  | succ count hypothesis =>
      obtain ⟨letter, next, more, first, later, rfl⟩ :=
        exists_of_letters_succ found
      exact List.forall_mem_cons.mpr
        ⟨isLetter_of_drawLetter first, hypothesis later⟩

/-- Letters are drawn consecutively. -/
theorem letters_add (first second : Nat) (source : Source) :
    letters (first + second) source =
      match letters first source with
      | none => none
      | some (drawn, rest) =>
          (letters second rest).map fun result =>
            (drawn ++ result.1, result.2) := by
  induction first generalizing source with
  | zero => simp
  | succ first hypothesis =>
      rw [Nat.add_right_comm, letters_succ, letters_succ]
      rcases drawLetter source with _ | ⟨letter, rest⟩
      · rfl
      · dsimp only
        rw [hypothesis]
        rcases letters first rest with _ | ⟨drawn, middle⟩
        · rfl
        · simp [Function.comp_def]

theorem exists_of_letters_add
    {first second : Nat}
    {source rest : Source}
    {drawn : List UInt8}
    (found : letters (first + second) source = some (drawn, rest)) :
    ∃ front next back,
      letters first source = some (front, next) ∧
        letters second next = some (back, rest) ∧
        drawn = front ++ back := by
  rw [letters_add] at found
  cases early : letters first source with
  | none => simp [early] at found
  | some result =>
      obtain ⟨front, next⟩ := result
      simp only [early, Option.map_eq_some_iff] at found
      obtain ⟨⟨back, final⟩, later, equal⟩ := found
      cases equal
      exact ⟨front, next, back, rfl, later, rfl⟩

/-- Letters drawn in two parts are drawn together. -/
theorem letters_add_of_letters
    {first second : Nat}
    {source middle rest : Source}
    {front back : List UInt8}
    (early : letters first source = some (front, middle))
    (late : letters second middle = some (back, rest)) :
    letters (first + second) source = some (front ++ back, rest) := by
  rw [letters_add, early]
  dsimp only
  rw [late]
  rfl

/-- The letters that a source yields, at most some number of them. They break
off in front of a letter that is never drawn. -/
def yielded : Nat -> Source -> List UInt8
  | 0, _ => []
  | count + 1, source =>
      match drawLetter source with
      | none => []
      | some (letter, rest) => letter :: yielded count rest

theorem yielded_add_of_letters
    {first : Nat}
    {source rest : Source}
    {drawn : List UInt8}
    (found : letters first source = some (drawn, rest))
    (second : Nat) :
    yielded (first + second) source = drawn ++ yielded second rest := by
  induction first generalizing source drawn with
  | zero =>
      cases found
      simp
  | succ first hypothesis =>
      obtain ⟨letter, next, more, drawnFirst, later, rfl⟩ :=
        exists_of_letters_succ found
      rw [Nat.add_right_comm, yielded, drawnFirst, List.cons_append]
      exact congrArg (letter :: ·) (hypothesis later)

theorem length_yielded_le (count : Nat) (source : Source) :
    (yielded count source).length ≤ count := by
  induction count generalizing source with
  | zero => exact Nat.le_refl 0
  | succ count hypothesis =>
      rw [yielded]
      rcases drawLetter source with _ | ⟨letter, rest⟩
      · exact Nat.zero_le _
      · exact Nat.succ_le_succ (hypothesis rest)

/-- A source that stops to yield letters has yielded too few. -/
theorem length_yielded_lt
    {count : Nat}
    {source : Source}
    (endless : letters count source = none) :
    (yielded count source).length < count := by
  induction count generalizing source with
  | zero => cases endless
  | succ count hypothesis =>
      rw [letters_succ] at endless
      rw [yielded]
      generalize drawLetter source = first at endless ⊢
      rcases first with _ | ⟨letter, rest⟩
      · exact Nat.zero_lt_succ _
      · rw [Option.map_eq_none_iff] at endless
        exact Nat.succ_lt_succ (hypothesis endless)

end StreamLoad

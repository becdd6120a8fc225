import Mathlib.Algebra.Order.Floor.Div
import Mathlib.Data.List.Forall2
import Mathlib.Data.Set.Card
import Mathlib.Order.Interval.Finset.Nat
import StreamLoad.Proofs.Random.Draw

/-!
# Every number has equally many words

A word gives a number when its product with the bound lies in the part of the
number's interval that begins with it. These parts are equally long for all
numbers, a multiple of the bound, so that each holds the products of equally
many words: two to the number of zero bits in front of the bound.
-/

namespace StreamLoad

/-- The bound moved to the left until no zero bit is in front of it. -/
theorem leadingZeros_bounds
    {bound : UInt64}
    (nonzero : bound ≠ 0) :
    2 ^ 63 ≤ bound.toNat * 2 ^ leadingZeros bound ∧
      bound.toNat * 2 ^ leadingZeros bound < 2 ^ 64 := by
  have positive : bound.toNat ≠ 0 := fun zero =>
    nonzero (UInt64.toNat_inj.mp zero)
  have low := Nat.log2_self_le positive
  have high : bound.toNat < 2 ^ (Nat.log2 bound.toNat + 1) :=
    Nat.lt_log2_self
  have digits : Nat.log2 bound.toNat < 64 :=
    (Nat.log2_lt positive).mpr bound.toNat_lt
  unfold leadingZeros
  constructor
  · calc
      2 ^ 63 =
          2 ^ Nat.log2 bound.toNat * 2 ^ (63 - Nat.log2 bound.toNat) := by
        rw [← Nat.pow_add]
        congr 1
        omega
      _ ≤ bound.toNat * 2 ^ (63 - Nat.log2 bound.toNat) :=
        Nat.mul_le_mul_right _ low
  · calc
      bound.toNat * 2 ^ (63 - Nat.log2 bound.toNat) <
          2 ^ (Nat.log2 bound.toNat + 1) *
            2 ^ (63 - Nat.log2 bound.toNat) :=
        Nat.mul_lt_mul_of_pos_right high (Nat.two_pow_pos _)
      _ = 2 ^ 64 := by
        rw [← Nat.pow_add]
        congr 1
        omega

/-- A product lies in the front part of an interval when it is not below the
interval and less than the part above its beginning. -/
theorem div_eq_and_mod_lt_iff
    {product size index part : Nat}
    (small : part ≤ size) :
    product / size = index ∧ product % size < part ↔
      index * size ≤ product ∧ product < index * size + part := by
  have division := Nat.div_add_mod product size
  constructor
  · rintro ⟨rfl, inside⟩
    rw [Nat.mul_comm]
    omega
  · rintro ⟨low, high⟩
    have quotient : product / size = index := by
      apply Nat.div_eq_of_lt_le low
      rw [Nat.succ_mul]
      omega
    rw [quotient, Nat.mul_comm] at division
    exact ⟨quotient, by omega⟩

/-- The numbers whose multiples lie in a stretch of so many multiples are as
many, one after the other. -/
theorem mul_mem_stretch_iff
    {word choices start count : Nat}
    (positive : 0 < choices) :
    start ≤ word * choices ∧ word * choices < start + choices * count ↔
      word ∈ Finset.Ico (start ⌈/⌉ choices)
        (start ⌈/⌉ choices + count) := by
  have first (number : Nat) :
      start ⌈/⌉ choices ≤ number ↔ start ≤ choices * number :=
    ceilDiv_le_iff_le_mul positive
  rw [Finset.mem_Ico, first, Nat.mul_comm word]
  refine and_congr_right fun low => ?_
  rcases Nat.lt_or_ge word count with few | enough
  · -- The first of the numbers alone is that far.
    have far : choices * word < choices * count :=
      Nat.mul_lt_mul_of_pos_left few positive
    exact iff_of_true (by omega) (by omega)
  · have behind := first (word - count)
    rw [Nat.mul_sub] at behind
    have less := Nat.mul_le_mul_left choices enough
    omega

/-- The words that give a number. -/
def wordsOf (bound number : UInt64) : Set UInt64 :=
  { word | numberOfWord bound word = some number }

variable {bound number : UInt64}

theorem mem_wordsOf_iff
    (low : 1 ≤ number.toNat)
    (high : number.toNat ≤ bound.toNat)
    (word : UInt64) :
    word ∈ wordsOf bound number ↔
      word.toNat * bound.toNat / UInt64.size = number.toNat - 1 ∧
        word.toNat * bound.toNat % UInt64.size <
          bound.toNat * 2 ^ leadingZeros bound := by
  have choice : word.toNat * bound.toNat / UInt64.size < bound.toNat :=
    mul_div_lt_of_lt word.toNat_lt (by omega)
  have boundSmall := bound.toNat_lt
  change numberOfWord bound word = some number ↔ _
  unfold numberOfWord
  rw [Nat.shiftLeft_eq]
  simp only [Option.ite_none_right_eq_some, Option.some.injEq]
  rw [and_comm]
  refine and_congr_left fun _ => ?_
  generalize word.toNat * bound.toNat / UInt64.size = index at choice
  rw [← UInt64.toNat_inj, UInt64.toNat_add, UInt64.toNat_ofNat',
    show (1 : UInt64).toNat = 1 from rfl]
  omega

/-- Every number up to the bound is given by equally many words. -/
theorem ncard_wordsOf
    (low : 1 ≤ number.toNat)
    (high : number.toNat ≤ bound.toNat) :
    (wordsOf bound number).ncard = 2 ^ leadingZeros bound := by
  have positive : 0 < bound.toNat := by omega
  have nonzero : bound ≠ 0 := by
    rintro rfl
    exact Nat.lt_irrefl 0 positive
  have fits : bound.toNat * 2 ^ leadingZeros bound ≤ UInt64.size :=
    Nat.le_of_lt (leadingZeros_bounds nonzero).2
  let start := (number.toNat - 1) * UInt64.size
  let first := start ⌈/⌉ bound.toNat
  have counted (word : UInt64) :
      word ∈ wordsOf bound number ↔
        word.toNat ∈ Finset.Ico first (first + 2 ^ leadingZeros bound) := by
    rw [mem_wordsOf_iff low high, div_eq_and_mod_lt_iff fits,
      mul_mem_stretch_iff positive]
  have image : UInt64.toNat '' wordsOf bound number =
      Finset.Ico first (first + 2 ^ leadingZeros bound) := by
    ext place
    constructor
    · rintro ⟨word, member, rfl⟩
      exact (counted word).mp member
    · intro member
      -- The stretch ends in front of the last interval's end.
      have inside : place < UInt64.size := by
        have stretch := (mul_mem_stretch_iff positive).mpr member
        have ends : start + UInt64.size ≤ bound.toNat * UInt64.size := by
          rw [← Nat.succ_mul]
          exact Nat.mul_le_mul_right _ (by omega)
        apply Nat.lt_of_mul_lt_mul_left (a := bound.toNat)
        rw [Nat.mul_comm]
        omega
      have value : (UInt64.ofNat place).toNat = place :=
        UInt64.toNat_ofNat_of_lt' inside
      refine ⟨UInt64.ofNat place, ?_, value⟩
      rw [counted, value]
      exact member
  have injective : Function.Injective UInt64.toNat :=
    fun _ _ => UInt64.toNat_inj.mp
  rw [← Set.ncard_image_of_injective _ injective, image,
    Set.ncard_coe_finset, Nat.card_Ico, Nat.add_sub_cancel_left]

/-- No word gives a number beyond the bound. -/
theorem wordsOf_eq_empty
    (nonzero : bound ≠ 0)
    (outside : ¬(1 ≤ number.toNat ∧ number.toNat ≤ bound.toNat)) :
    wordsOf bound number = ∅ := by
  ext word
  refine iff_of_false ?_ (Set.notMem_empty word)
  intro accepted
  exact outside (numberOfWord_bounds nonzero accepted)

theorem exists_mem_wordsOf
    (low : 1 ≤ number.toNat)
    (high : number.toNat ≤ bound.toNat) :
    ∃ word, numberOfWord bound word = some number := by
  apply Set.nonempty_of_ncard_ne_zero (s := wordsOf bound number)
  rw [ncard_wordsOf low high]
  exact (Nat.two_pow_pos _).ne'

/-- Lists are as many as their first members and the lists behind these. -/
theorem ncard_image_cons
    {Value : Type}
    (first : Set Value)
    (others : Set (List Value)) :
    (Function.uncurry List.cons '' (first ×ˢ others)).ncard =
      first.ncard * others.ncard := by
  have injective : Function.Injective2 (List.cons (α := Value)) :=
    fun _ _ _ _ => List.cons_eq_cons.mp
  rw [Set.ncard_image_of_injective _ injective.uncurry, Set.ncard_prod]

/-- The lists of words that give some numbers one by one. -/
def wordsOfEach (bound : UInt64) (numbers : List UInt64) :
    Set (List UInt64) :=
  { words | List.Forall₂ (fun word number => word ∈ wordsOf bound number)
      words numbers }

theorem wordsOfEach_nil (bound : UInt64) : wordsOfEach bound [] = {[]} := by
  ext words
  exact List.forall₂_nil_right_iff

theorem wordsOfEach_cons (bound number : UInt64) (numbers : List UInt64) :
    wordsOfEach bound (number :: numbers) =
      Function.uncurry List.cons ''
        (wordsOf bound number ×ˢ wordsOfEach bound numbers) := by
  ext words
  constructor
  · intro given
    obtain ⟨word, later, first, others, rfl⟩ :=
      List.forall₂_cons_right_iff.mp given
    exact ⟨(word, later), ⟨first, others⟩, rfl⟩
  · rintro ⟨⟨word, later⟩, ⟨first, others⟩, rfl⟩
    exact .cons first others

/-- Numbers up to the bound are given by as many lists of words as any others of
the same count. -/
theorem ncard_wordsOfEach
    {numbers : List UInt64}
    (inside : ∀ number ∈ numbers,
      1 ≤ number.toNat ∧ number.toNat ≤ bound.toNat) :
    (wordsOfEach bound numbers).ncard =
      (2 ^ leadingZeros bound) ^ numbers.length := by
  induction numbers with
  | nil => rw [wordsOfEach_nil, Set.ncard_singleton, List.length_nil, pow_zero]
  | cons number numbers hypothesis =>
      obtain ⟨⟨low, high⟩, others⟩ := List.forall_mem_cons.mp inside
      rw [wordsOfEach_cons, ncard_image_cons, ncard_wordsOf low high,
        hypothesis others, List.length_cons, pow_succ']

end StreamLoad

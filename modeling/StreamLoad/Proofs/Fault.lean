import Mathlib.Algebra.GroupWithZero.Nat
import StreamLoad.Fault

/-!
# Exact sums of words

Adding up words or counts one after the other is exact: the sum is told as it is
when it fits into a word, and otherwise it overflows, at whichever step. No step
on the way is a fault unless the sum itself does not fit.
-/

namespace StreamLoad

theorem wordBound_eq : wordBound = 2 ^ 64 := rfl

/-- A number that fits into a word; from `2 ^ 64` on it is an overflow. -/
def exactCount (number : Nat) : Except Fault Nat :=
  if number < 2 ^ 64 then
    .ok number
  else
    .error .addOverflow

theorem exactCount_of_lt {number : Nat} (fits : number < 2 ^ 64) :
    exactCount number = .ok number :=
  if_pos fits

theorem exactCount_of_le {number : Nat} (large : 2 ^ 64 ≤ number) :
    exactCount number = .error .addOverflow :=
  if_neg (Nat.not_lt.mpr large)

theorem exactCount_eq_ok_iff {number count : Nat} :
    exactCount number = .ok count ↔ number = count ∧ count < 2 ^ 64 := by
  unfold exactCount
  split
  next fits =>
    simp only [Except.ok.injEq]
    omega
  next large =>
    simp only [reduceCtorEq, false_iff]
    omega

/-- A number told as a word is this word. -/
theorem map_ofNat_exactCount_eq_ok_iff {number : Nat} {word : UInt64} :
    (exactCount number).map UInt64.ofNat = .ok word ↔
      number = word.toNat := by
  have bound := word.toNat_lt
  rcases Nat.lt_or_ge number (2 ^ 64) with fits | large
  · rw [exactCount_of_lt fits]
    simp only [Except.map, Except.ok.injEq]
    rw [← UInt64.toNat_inj, UInt64.toNat_ofNat_of_lt' fits]
  · rw [exactCount_of_le large]
    simp only [Except.map, reduceCtorEq, false_iff]
    omega

theorem checkedCount_eq (left right : Nat) :
    checkedCount left right = exactCount (left + right) := rfl

theorem checkedAdd_eq (left right : UInt64) :
    checkedAdd left right =
      (exactCount (left.toNat + right.toNat)).map UInt64.ofNat := by
  unfold checkedAdd exactCount
  rw [wordBound_eq]
  split
  · rw [Except.map, UInt64.ofNat_add, UInt64.ofNat_toNat, UInt64.ofNat_toNat]
  · rfl

/-- Counts that are added up one after the other come to their exact sum. -/
theorem foldlM_checkedCount
    {start : Nat}
    (small : start < 2 ^ 64)
    (counts : List Nat) :
    counts.foldlM checkedCount start = exactCount (start + counts.sum) := by
  induction counts generalizing start with
  | nil => exact (exactCount_of_lt small).symm
  | cons count counts hypothesis =>
      rw [List.foldlM_cons, List.sum_cons, checkedCount_eq, ← Nat.add_assoc]
      rcases Nat.lt_or_ge (start + count) (2 ^ 64) with fits | large
      · rw [exactCount_of_lt fits]
        exact hypothesis fits
      · -- A sum that is too large stays so, whatever is added behind it.
        rw [exactCount_of_le large, exactCount_of_le (by omega)]
        rfl

/-- Words that are added up one after the other come to their exact sum. -/
theorem foldlM_checkedAdd (start : UInt64) (words : List UInt64) :
    words.foldlM checkedAdd start =
      (exactCount (start.toNat + (words.map UInt64.toNat).sum)).map
        UInt64.ofNat := by
  induction words generalizing start with
  | nil =>
      rw [List.map_nil, List.sum_nil, Nat.add_zero,
        exactCount_of_lt start.toNat_lt, Except.map, UInt64.ofNat_toNat]
      rfl
  | cons word words hypothesis =>
      rw [List.foldlM_cons, List.map_cons, List.sum_cons, checkedAdd_eq,
        ← Nat.add_assoc]
      rcases Nat.lt_or_ge (start.toNat + word.toNat) (2 ^ 64) with
        fits | large
      · rw [exactCount_of_lt fits]
        have sum := hypothesis (UInt64.ofNat (start.toNat + word.toNat))
        rwa [UInt64.toNat_ofNat_of_lt' fits] at sum
      · rw [exactCount_of_le large, exactCount_of_le (by omega)]
        rfl

/-- A sum of words is exact. -/
theorem checkedSum_eq (words : List UInt64) :
    checkedSum words =
      (exactCount (words.map UInt64.toNat).sum).map UInt64.ofNat := by
  rw [checkedSum, foldlM_checkedAdd, UInt64.toNat_zero, Nat.zero_add]

/-- A sum of words is exact: no step on the way fails unless the whole does. -/
theorem checkedSum_eq_ok_iff {words : List UInt64} {total : UInt64} :
    checkedSum words = .ok total ↔
      (words.map UInt64.toNat).sum = total.toNat := by
  rw [checkedSum_eq, map_ofNat_exactCount_eq_ok_iff]

/-- A sum of counts is exact, and fails only when it is too large. -/
theorem foldlM_checkedCount_eq_ok_iff
    {start total : Nat}
    {counts : List Nat}
    (small : start < wordBound) :
    counts.foldlM checkedCount start = .ok total ↔
      start + counts.sum = total ∧ total < wordBound := by
  rw [foldlM_checkedCount small]
  exact exactCount_eq_ok_iff

end StreamLoad

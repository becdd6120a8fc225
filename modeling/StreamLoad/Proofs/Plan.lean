import Mathlib.Algebra.GroupWithZero.Nat
import StreamLoad.Plan
import StreamLoad.Proofs.Random.Draw

/-!
# Drawn plans

A drawn plan keeps to its limits: it has at least one stream and at most the
greatest count, and each stream has at least one letter and at most the
greatest length.
-/

namespace StreamLoad
namespace Plan

/-- A plan with a stream count and stream lengths from one to the limits. -/
structure Within (plan : Plan) (limits : Limits) : Prop where
  nonempty : 1 ≤ plan.size
  size : plan.size ≤ limits.maxStreams.toNat
  lengths : ∀ length ∈ plan.lengths,
    1 ≤ length.toNat ∧ length.toNat ≤ limits.maxStreamLength.toNat

variable {Source : Type} [WordSource Source]

theorem forall_mem_of_drawLengths
    {maxStreamLength : UInt64}
    {count : Nat}
    {drawn lengths : List UInt64}
    {source rest : Source}
    (found : drawLengths maxStreamLength count drawn source =
      (.ok lengths, rest)) :
    ∃ more,
      lengths = drawn.reverse ++ more ∧ more.length = count ∧
        ∀ length ∈ more,
          1 ≤ length.toNat ∧ length.toNat ≤ maxStreamLength.toNat := by
  induction count generalizing drawn source with
  | zero =>
      cases found
      exact ⟨[], by simp⟩
  | succ count hypothesis =>
      rw [drawLengths] at found
      split at found
      next => cases found
      next length later first =>
        obtain ⟨more, equal, size, bounds⟩ := hypothesis found
        refine ⟨length :: more, ?_, ?_, ?_⟩
        · rw [equal, List.reverse_cons, List.append_assoc]
          rfl
        · rw [List.length_cons, size]
        · exact List.forall_mem_cons.mpr ⟨drawUpTo_bounds first, bounds⟩

/-- Lengths are those of the next words when none of these is passed over. -/
theorem drawLengths_of_accepted
    {bound : UInt64}
    {lengths : List UInt64}
    {source : Source}
    (accepted : ∀ index (inside : index < lengths.length),
      numberOfWord bound
          (WordSource.nextLong (WordSource.skip (2 * index) source)).1 =
        some lengths[index])
    (drawn : List UInt64) :
    drawLengths bound lengths.length drawn source =
      (.ok (drawn.reverse ++ lengths),
        WordSource.skip (2 * lengths.length) source) := by
  induction lengths generalizing source drawn with
  | nil => simp [drawLengths]
  | cons length lengths hypothesis =>
      have first : numberOfWord bound (WordSource.nextLong source).1 =
          some length := accepted 0 (Nat.succ_pos _)
      have others : ∀ index (inside : index < lengths.length),
          numberOfWord bound (WordSource.nextLong
              (WordSource.skip (2 * index) (WordSource.skip 2 source))).1 =
            some lengths[index] := by
        intro index inside
        exact accepted (index + 1) (Nat.succ_lt_succ inside)
      rw [List.length_cons, drawLengths, drawUpTo_of_accept first]
      dsimp only
      rw [WordSource.nextLong_snd, hypothesis others, List.reverse_cons,
        List.append_assoc]
      rfl

/-- A plan is that of the next words when none of these is passed over. -/
theorem draw_of_accepted
    {limits : Limits}
    {plan : Plan}
    {source : Source}
    (small : plan.size < capacity)
    (count : numberOfWord limits.maxStreams (WordSource.nextLong source).1 =
      some (UInt64.ofNat plan.size))
    (lengths : ∀ index (inside : index < plan.lengths.length),
      numberOfWord limits.maxStreamLength
          (WordSource.nextLong
            (WordSource.skip (2 * index) (WordSource.skip 2 source))).1 =
        some plan.lengths[index]) :
    draw limits source =
      (.ok plan, WordSource.skip (2 * (plan.size + 1)) source) := by
  have exact : (UInt64.ofNat plan.size).toNat = plan.lengths.length := by
    apply UInt64.toNat_ofNat_of_lt'
    unfold capacity wordBound at small
    omega
  have drawn := drawLengths_of_accepted lengths []
  unfold draw
  rw [drawUpTo_of_accept count]
  dsimp only
  rw [exact, if_pos (show plan.lengths.length < capacity from small),
    WordSource.nextLong_snd, drawn]
  rfl

/-- A drawn plan keeps to its limits, and it can be held in memory. -/
theorem within_of_draw
    {limits : Limits}
    {plan : Plan}
    {source rest : Source}
    (drawn : draw limits source = (.ok plan, rest)) :
    plan.Within limits ∧ plan.size < capacity := by
  unfold draw at drawn
  split at drawn
  next => cases drawn
  next count later counted =>
    have bounds := drawUpTo_bounds counted
    split at drawn
    next small =>
      split at drawn
      next => cases drawn
      next lengths final found =>
        cases drawn
        obtain ⟨more, equal, size, inside⟩ := forall_mem_of_drawLengths found
        rw [List.reverse_nil, List.nil_append] at equal
        subst equal
        refine ⟨⟨?_, ?_, inside⟩, ?_⟩
        · rw [Plan.size, size]
          exact bounds.1
        · rw [Plan.size, size]
          exact bounds.2
        · rwa [Plan.size, size]
    next => cases drawn

/-- A drawn plan has an index for each of its streams. -/
theorem size_le_of_draw
    {limits : Limits}
    {plan : Plan}
    {source rest : Source}
    (drawn : draw limits source = (.ok plan, rest)) :
    plan.size ≤ 2 ^ 64 := by
  have fits := (within_of_draw drawn).2
  unfold capacity wordBound UInt64.size at fits
  omega

end Plan
end StreamLoad

import Mathlib.Data.List.SplitLengths
import StreamLoad.Proofs.Payload.Dictation

/-!
# How a body is split into writes

A body goes out in full pages, as many as fit into it, and one shorter page for
the rest, if there is one. The sizes depend on the length of the body and on the
size of a page alone; what is written are the letters of the body, cut at these
sizes.
-/

namespace StreamLoad

namespace PageSize

/-- A page size that is taken has as many bytes as it was told. -/
theorem bytes_of_ofBytes
    {bytes : UInt64}
    {pageSize : PageSize}
    (found : ofBytes bytes = .ok pageSize) : pageSize.bytes = bytes := by
  unfold ofBytes at found
  split at found
  next =>
    split at found
    all_goals cases found
    rfl
  next => cases found

/-- A page of at least one byte can be held in memory or is too large. -/
theorem ofBytes_cases
    {bytes : UInt64}
    (positive : 0 < bytes.toNat) :
    (∃ pageSize, ofBytes bytes = .ok pageSize) ∨
      (2 ^ 63 ≤ bytes.toNat ∧ ofBytes bytes = .error .capacityOverflow) := by
  unfold ofBytes
  rw [dif_pos positive]
  by_cases allocatable : bytes.toNat < wordBound / 2
  · rw [dif_pos allocatable]
    exact .inl ⟨_, rfl⟩
  · rw [dif_neg allocatable]
    exact .inr ⟨Nat.le_of_not_lt allocatable, rfl⟩

/-- The sizes of the writes of a body of some length. -/
def writeSizes (pageSize : PageSize) (length : Nat) : List Nat :=
  List.replicate (length / pageSize.bytes.toNat) pageSize.bytes.toNat ++
    if length % pageSize.bytes.toNat = 0 then
      []
    else
      [length % pageSize.bytes.toNat]

@[simp] theorem writeSizes_zero (pageSize : PageSize) :
    pageSize.writeSizes 0 = [] := by
  simp [writeSizes]

/-- A body that is no longer than a page is one write. -/
theorem writeSizes_of_le
    {pageSize : PageSize}
    {length : Nat}
    (positive : 0 < length)
    (small : length ≤ pageSize.bytes.toNat) :
    pageSize.writeSizes length = [length] := by
  unfold writeSizes
  rcases Nat.eq_or_lt_of_le small with equal | less
  · simp [← equal, Nat.div_self positive]
  · rw [Nat.div_eq_of_lt less, Nat.mod_eq_of_lt less, if_neg (by omega)]
    rfl

/-- A longer body is a full page and what remains. -/
theorem writeSizes_of_lt
    {pageSize : PageSize}
    {length : Nat}
    (larger : pageSize.bytes.toNat < length) :
    pageSize.writeSizes length =
      pageSize.bytes.toNat ::
        pageSize.writeSizes (length - pageSize.bytes.toNat) := by
  have positive := pageSize.positive
  unfold writeSizes
  rw [Nat.div_eq_sub_div positive (Nat.le_of_lt larger),
    Nat.mod_eq_sub_mod (Nat.le_of_lt larger), List.replicate_succ]
  rfl

/-- The writes of a body hold it together. -/
theorem sum_writeSizes (pageSize : PageSize) (length : Nat) :
    (pageSize.writeSizes length).sum = length := by
  have division := Nat.div_add_mod length pageSize.bytes.toNat
  unfold writeSizes
  split <;> simp [Nat.mul_comm] <;> omega

/-- No write of a body is empty or larger than a page. -/
theorem bounds_of_mem_writeSizes
    {pageSize : PageSize}
    {length size : Nat}
    (member : size ∈ pageSize.writeSizes length) :
    1 ≤ size ∧ size ≤ pageSize.bytes.toNat := by
  have positive := pageSize.positive
  have bound := Nat.mod_lt length positive
  unfold writeSizes at member
  rcases List.mem_append.mp member with full | rest
  · rw [List.eq_of_mem_replicate full]
    omega
  · split at rest
    next => cases rest
    next nonzero =>
      obtain rfl := List.mem_singleton.mp rest
      omega

end PageSize

namespace Pages

/-- A step is taken while something remains. It takes a full page, or all that
remains if that is less. -/
theorem size_of_next?
    {pages rest : Pages}
    {size : UInt64}
    (step : pages.next? = some (size, rest)) :
    0 < pages.remaining.toNat ∧
      size.toNat =
        min pages.remaining.toNat pages.pageSize.bytes.toNat ∧
      rest.pageSize = pages.pageSize := by
  unfold next? at step
  split at step
  next => cases step
  next nonzero =>
    have positive : pages.remaining.toNat ≠ 0 := fun zero =>
      nonzero (UInt64.toNat_inj.mp zero)
    simp only [Option.some.injEq, Prod.mk.injEq] at step
    obtain ⟨rfl, rfl⟩ := step
    refine ⟨Nat.pos_of_ne_zero positive, ?_, rfl⟩
    simp only [UInt64.le_iff_toNat_le]
    split <;> omega

/-- The pages of what remains have the sizes of the writes. -/
theorem map_toNat_toList (pages : Pages) :
    pages.toList.map UInt64.toNat =
      pages.pageSize.writeSizes pages.remaining.toNat := by
  fun_induction toList pages with
  | case1 pages step =>
      rw [remaining_of_next?_eq_none step, PageSize.writeSizes_zero]
      rfl
  | case2 pages size rest step smaller hypothesis =>
      obtain ⟨positive, isSize, samePage⟩ := size_of_next? step
      have taken := remaining_of_next? step
      rw [List.map_cons, hypothesis, samePage]
      rcases Nat.lt_or_ge pages.pageSize.bytes.toNat
        pages.remaining.toNat with larger | small
      · rw [Nat.min_eq_right (Nat.le_of_lt larger)] at isSize
        rw [show rest.remaining.toNat =
            pages.remaining.toNat - pages.pageSize.bytes.toNat by omega,
          isSize, PageSize.writeSizes_of_lt larger]
      · rw [Nat.min_eq_left small] at isSize
        rw [show rest.remaining.toNat = 0 by omega, isSize,
          PageSize.writeSizes_zero, PageSize.writeSizes_of_le positive small]

end Pages

namespace Payload

variable {Source : Type} [WordSource Source]

/-- The writes of a body have the sizes of its pages, whatever the source. -/
theorem sized_dictate
    (sizes : List UInt64)
    (written : Nat)
    (source : Source) :
    (dictate sizes written source).Sized (sizes.map UInt64.toNat) := by
  induction sizes generalizing written source with
  | nil => exact .silent _
  | cons size sizes hypothesis =>
      rw [dictate, fillPage_eq_letters, List.map_cons]
      rcases drawn : letters size.toNat source with _ | ⟨page, later⟩
      · exact .halted _ _
      · rw [← length_of_letters drawn]
        exact (Dictation.Sized.text page).andThen
          fun _ _ => hypothesis (written + 1) later

/-- Letters that are all drawn are written as they are, cut at the sizes of the
pages. -/
theorem texts_dictate_of_letters
    {sizes : List UInt64}
    {source rest : Source}
    {body : List UInt8}
    (written : Nat)
    (drawn : letters (sizes.map UInt64.toNat).sum source =
      some (body, rest)) :
    (dictate sizes written source).texts =
      (sizes.map UInt64.toNat).splitLengths body := by
  induction sizes generalizing written source body with
  | nil => rfl
  | cons size sizes hypothesis =>
      rw [List.map_cons, List.sum_cons] at drawn
      obtain ⟨page, later, more, first, second, rfl⟩ :=
        exists_of_letters_add drawn
      have length := length_of_letters first
      rw [dictate, fillPage_eq_letters, first]
      simp [hypothesis (written + 1) second, ← length]

end Payload
end StreamLoad

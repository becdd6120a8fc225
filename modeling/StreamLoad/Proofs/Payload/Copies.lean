import StreamLoad.Payload.Buffer
import StreamLoad.Proofs.Payload.Sending

/-!
# Pages asked for one by one

Pages come off a body one call after the other, and at any time they may be
copied. Every copy stands at a place in one list, which holds the full pages of
the body and then the shorter one: a call is answered by the page at the place
of the copy and moves this copy, and no other, one place on. From the end of the
list on there is no answer any more.
-/

namespace StreamLoad

/-- What is asked of numbered copies: a page of one of them, or one copy more of
it. -/
inductive Demand
  | page (index : Nat)
  | copy (index : Nat)

namespace Demand

/-- Meet a demand by copies of something that is called for pages. There is an
answer when one of the copies has been called. -/
def meet
    {Copy : Type}
    (call : Copy -> Option UInt64 × Copy)
    (copies : List Copy) :
    Demand -> Option (Option UInt64) × List Copy
  | .page index =>
      (copies[index]?.map fun called => (call called).1,
        copies.modify index fun called => (call called).2)
  | .copy index => (none, copies ++ copies[index]?.toList)

/-- Meet demands one after the other. -/
def meetAll
    {Copy : Type}
    (call : Copy -> Option UInt64 × Copy) :
    List Demand -> List Copy -> List (Option (Option UInt64)) × List Copy
  | [], copies => ([], copies)
  | demand :: demands, copies =>
      let met := demand.meet call copies
      let later := meetAll call demands met.2
      (met.1 :: later.1, later.2)

/-- Changing one of some views changes what it shows, and nothing else. -/
theorem map_modify
    {View Shown : Type}
    {shown : View -> Shown}
    {change : View -> View}
    {shownChange : Shown -> Shown}
    (inStep : ∀ view, shown (change view) = shownChange (shown view))
    (views : List View)
    (index : Nat) :
    (views.modify index change).map shown =
      (views.map shown).modify index shownChange := by
  apply List.ext_getElem?
  intro other
  rw [List.getElem?_map, List.getElem?_modify, List.getElem?_modify,
    List.getElem?_map]
  by_cases same : index = other
  · cases views[other]? <;> simp [same, inStep]
  · simp [same]

section View

variable
  {Copy View : Type}
  {call : Copy -> Option UInt64 × Copy}
  {viewCall : View -> Option UInt64 × View}
  {shown : View -> Copy}

/-- A demand is met alike by copies and by views of them that are called in
step. -/
theorem meet_map
    (inStep : ∀ view,
      call (shown view) = ((viewCall view).1, shown (viewCall view).2))
    (demand : Demand)
    (views : List View) :
    demand.meet call (views.map shown) =
      ((demand.meet viewCall views).1,
        (demand.meet viewCall views).2.map shown) := by
  cases demand with
  | page index =>
      have moves (view : View) :
          shown (viewCall view).2 = (call (shown view)).2 := by
        rw [inStep]
      refine Prod.ext ?_ (map_modify moves views index).symm
      simp [meet, inStep, Function.comp_def]
  | copy index =>
      refine Prod.ext rfl ?_
      cases found : views[index]? <;> simp [meet, found]

/-- So are demands one after the other. -/
theorem meetAll_map
    (inStep : ∀ view,
      call (shown view) = ((viewCall view).1, shown (viewCall view).2))
    (demands : List Demand)
    (views : List View) :
    meetAll call demands (views.map shown) =
      ((meetAll viewCall demands views).1,
        (meetAll viewCall demands views).2.map shown) := by
  induction demands generalizing views with
  | nil => rfl
  | cons demand demands hypothesis =>
      simp only [meetAll, meet_map inStep, hypothesis]

end View
end Demand

namespace PageBuffer

/-- The whole page that is kept. -/
def page (buffer : PageBuffer) : List UInt8 :=
  buffer.front buffer.pageSize.bytes.toNat

/-- A smaller front of a page is the front of a larger one. -/
theorem front_prefix_of_le
    (buffer : PageBuffer)
    {size larger : Nat}
    (order : size ≤ larger) :
    buffer.front size <+: buffer.front larger := by
  rw [List.prefix_iff_eq_take, length_front]
  have zeros : size - buffer.filled.length =
      min (size - min larger buffer.filled.length)
        (larger - buffer.filled.length) := by
    omega
  simp only [front, List.take_append, List.take_take, Nat.min_eq_left order,
    List.take_replicate, List.length_take, ← zeros]

end PageBuffer

namespace Pages

/-- A call for the next page. With no page left it changes nothing. -/
def call (pages : Pages) : Option UInt64 × Pages :=
  match pages.next? with
  | none => (none, pages)
  | some (size, rest) => (some size, rest)

/-- The pages behind a number of calls. -/
def after (pages : Pages) (calls : Nat) : Pages := (pages.take calls).2

/-- Look at a place of a list, and go on to the next one. -/
def lookAt (sizes : List UInt64) (place : Nat) : Option UInt64 × Nat :=
  (sizes[place]?, place + 1)

section Steps

variable {pages rest : Pages} {size : UInt64}

theorem call_of_none (step : pages.next? = none) :
    pages.call = (none, pages) := by
  rw [call, step]

theorem call_of_some (step : pages.next? = some (size, rest)) :
    pages.call = (some size, rest) := by
  rw [call, step]

theorem take_of_none (step : pages.next? = none) (calls : Nat) :
    pages.take calls = ([], pages) := by
  cases calls with
  | zero => rfl
  | succ calls => rw [take, step]

theorem take_succ_of_some
    (step : pages.next? = some (size, rest))
    (calls : Nat) :
    pages.take (calls + 1) =
      (size :: (rest.take calls).1, (rest.take calls).2) := by
  rw [take, step]

theorem after_of_none (step : pages.next? = none) (calls : Nat) :
    pages.after calls = pages := by
  rw [after, take_of_none step]

theorem after_succ_of_some
    (step : pages.next? = some (size, rest))
    (calls : Nat) :
    pages.after (calls + 1) = rest.after calls := by
  rw [after, take_succ_of_some step, after]

/-- Without a page left a call has no answer, and neither has any behind it. -/
theorem call_after_of_none (step : pages.next? = none) (calls : Nat) :
    (pages.after calls).call =
      (pages.toList[calls]?, pages.after (calls + 1)) := by
  rw [after_of_none step, after_of_none step, call_of_none step,
    toList_of_none step]
  rfl

end Steps

/-- A call behind some others is answered by the page at their number. -/
theorem call_after (pages : Pages) (calls : Nat) :
    (pages.after calls).call =
      (pages.toList[calls]?, pages.after (calls + 1)) := by
  induction calls generalizing pages with
  | zero =>
      cases step : pages.next? with
      | none => exact call_after_of_none step _
      | some next =>
          rw [after_succ_of_some step, toList_of_some step]
          exact call_of_some step
  | succ calls hypothesis =>
      -- The first of the calls goes on to the pages behind it, where the others
      -- are answered by the list without its head.
      cases step : pages.next? with
      | none => exact call_after_of_none step _
      | some next =>
          rw [after_succ_of_some step, after_succ_of_some step,
            toList_of_some step, List.getElem?_cons_succ, hypothesis]

/-- The pages that come off in some calls are the first ones, and those behind
them are left. -/
theorem take_eq (pages : Pages) (calls : Nat) :
    (pages.take calls).1 = pages.toList.take calls ∧
      (pages.after calls).toList = pages.toList.drop calls := by
  induction calls generalizing pages with
  | zero => exact ⟨rfl, rfl⟩
  | succ calls hypothesis =>
      cases step : pages.next? with
      | none =>
          rw [after_of_none step, take_of_none step, toList_of_none step]
          exact ⟨rfl, rfl⟩
      | some next =>
          obtain ⟨first, left⟩ := hypothesis next.2
          rw [after_succ_of_some step, take_succ_of_some step,
            toList_of_some step, List.take_succ_cons, List.drop_succ_cons]
          exact ⟨congrArg _ first, left⟩

/-- There is no answer from the end of the pages on, and only then. -/
theorem next?_after_eq_none_iff {pages : Pages} {calls : Nat} :
    (pages.after calls).next? = none ↔ pages.toList.length ≤ calls := by
  have answer := congrArg Prod.fst (call_after pages calls)
  rw [← List.getElem?_eq_none_iff]
  cases step : (pages.after calls).next? with
  | none =>
      rw [call_of_none step] at answer
      exact iff_of_true rfl answer.symm
  | some next =>
      rw [call_of_some step] at answer
      dsimp only at answer
      rw [← answer]
      exact iff_of_false nofun nofun

/-- Copies of pages are places in the list of the pages: demands are answered
alike, and every copy is what is left behind its place. -/
theorem meetAll_copies (pages : Pages) (demands : List Demand) :
    Demand.meetAll call demands [pages] =
      ((Demand.meetAll (lookAt pages.toList) demands [0]).1,
        (Demand.meetAll (lookAt pages.toList) demands [0]).2.map
          pages.after) := by
  have start : [pages] = [0].map pages.after := rfl
  rw [start]
  exact Demand.meetAll_map (call_after pages) demands [0]

/-- How a body of some length comes off in pages of some size. Its pages are the
full ones that fit into it and one for what is left, so they hold it together
and each is a front of the page that is kept, in whatever width its size is
told. Calls give out this list and nothing behind its end, and every copy is a
place in it. -/
structure SplitsExactly (pages : Pages) (pageBytes total : Nat) : Prop where
  sizes : pages.toList.map UInt64.toNat =
    List.replicate (total / pageBytes) pageBytes ++
      if total % pageBytes = 0 then [] else [total % pageBytes]
  whole : (pages.toList.map UInt64.toNat).sum = total
  count : pages.toList.length = (total + pageBytes - 1) / pageBytes
  bounds : ∀ size ∈ pages.toList, 1 ≤ size.toNat ∧ size.toNat ≤ pageBytes
  sliced : ∀ buffer : PageBuffer, buffer.pageSize = pages.pageSize ->
    ∀ size ∈ pages.toList,
      buffer.front size.toNat <+: buffer.page
  narrowed : ∀ width, pageBytes < 2 ^ width ->
    ∀ size ∈ pages.toList, size.toNat % 2 ^ width = size.toNat
  taken : ∀ calls,
    (pages.take calls).1 = pages.toList.take calls ∧
      (pages.after calls).toList = pages.toList.drop calls
  ended : ∀ calls,
    (pages.after calls).next? = none ↔ pages.toList.length ≤ calls
  copies : ∀ demands,
    Demand.meetAll call demands [pages] =
      ((Demand.meetAll (lookAt pages.toList) demands [0]).1,
        (Demand.meetAll (lookAt pages.toList) demands [0]).2.map pages.after)

/-- No page is empty or larger than a full page. -/
theorem bounds_of_mem_toList
    {pages : Pages}
    {size : UInt64}
    (member : size ∈ pages.toList) :
    1 ≤ size.toNat ∧ size.toNat ≤ pages.pageSize.bytes.toNat := by
  have written : size.toNat ∈
      pages.pageSize.writeSizes pages.remaining.toNat := by
    rw [← map_toNat_toList]
    exact List.mem_map_of_mem member
  exact PageSize.bounds_of_mem_writeSizes written

/-- Whatever is left of a body, its pages split it exactly. -/
theorem splitsExactly (pages : Pages) :
    pages.SplitsExactly pages.pageSize.bytes.toNat
      pages.remaining.toNat where
  sizes := map_toNat_toList pages
  whole := sum_toList pages
  count := length_toList pages
  bounds := fun _ => bounds_of_mem_toList
  sliced := by
    intro buffer samePage size member
    rw [PageBuffer.page, samePage]
    exact buffer.front_prefix_of_le (bounds_of_mem_toList member).2
  narrowed := by
    intro width fits size member
    have bound := (bounds_of_mem_toList member).2
    exact Nat.mod_eq_of_lt (Nat.lt_of_le_of_lt bound fits)
  taken := take_eq pages
  ended := fun _ => next?_after_eq_none_iff
  copies := meetAll_copies pages

end Pages

namespace PageSize

/-- Pages of at least one byte split every body exactly, unless they are too
large to be held in memory. -/
theorem splitsExactly_of_positive
    {bytes : UInt64}
    (positive : 1 ≤ bytes.toNat)
    (total : UInt64) :
    (∃ pageSize, ofBytes bytes = .ok pageSize ∧
      (pageSize.pages total).SplitsExactly bytes.toNat total.toNat) ∨
    (2 ^ 63 ≤ bytes.toNat ∧ ofBytes bytes = .error .capacityOverflow) := by
  rcases ofBytes_cases positive with ⟨pageSize, found⟩ | large
  · have splits := (pageSize.pages total).splitsExactly
    refine .inl ⟨pageSize, found, ?_⟩
    rwa [← bytes_of_ofBytes found]
  · exact .inr large

/-- Two hundred and fifty bytes in pages of a hundred. A copy that is made behind
the first page is given the others as well, although the pages of which it is a
copy come to their end before it. -/
theorem splitsExactly_hundreds :
    1 ≤ (100 : UInt64).toNat ∧
      ∃ pageSize, ofBytes 100 = .ok pageSize ∧
        (pageSize.pages 250).SplitsExactly 100 250 ∧
        (pageSize.pages 250).toList = [100, 100, 50] ∧
        (Demand.meetAll Pages.call
          [.page 0, .copy 0, .page 0, .page 0, .page 0, .page 1, .page 1]
          [pageSize.pages 250]).1 =
            [some (some 100), none, some (some 100), some (some 50),
              some none, some (some 100), some (some 50)] := by
  have positive : 1 ≤ (100 : UInt64).toNat := by decide
  refine ⟨positive, ?_⟩
  rcases splitsExactly_of_positive positive 250 with
    ⟨pageSize, found, splits⟩ | ⟨large, _⟩
  · have list : (pageSize.pages 250).toList = [100, 100, 50] :=
      (List.map_inj_right fun _ _ => UInt64.toNat_inj.mp).mp splits.sizes
    refine ⟨pageSize, found, splits, list, ?_⟩
    rw [splits.copies, list]
    rfl
  · exact absurd large (by decide)

end PageSize
end StreamLoad

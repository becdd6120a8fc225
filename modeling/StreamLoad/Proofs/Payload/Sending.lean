import StreamLoad.Proofs.Payload.Paging
import StreamLoad.Proofs.Transport.Disturbance

/-!
# How the sending of a body ends

Pages are drawn whole before they are written. When all of a body is written,
the source is behind its letters. When the writing of a page stops, some of the
letters up to this page are written, all those in front of it among them, and
the source is behind the whole page. A source that does not yield enough letters
keeps the sending from ever ending.
-/

namespace StreamLoad

namespace PageSize

/-- There are as many writes as it takes pages to hold a body. -/
theorem length_writeSizes (pageSize : PageSize) (length : Nat) :
    (pageSize.writeSizes length).length =
      (length + pageSize.bytes.toNat - 1) / pageSize.bytes.toNat := by
  have positive := pageSize.positive
  have division := Nat.div_add_mod length pageSize.bytes.toNat
  have bound := Nat.mod_lt length positive
  unfold writeSizes
  generalize length % pageSize.bytes.toNat = rest at division bound ⊢
  generalize length / pageSize.bytes.toNat = count at division ⊢
  generalize pageSize.bytes.toNat = size at positive division bound ⊢
  have parts : length + size - 1 = rest + size - 1 + size * count := by omega
  rw [parts, Nat.add_mul_div_left _ _ positive]
  by_cases empty : rest = 0
  · rw [if_pos empty, Nat.div_eq_of_lt (by omega)]
    simp
  · have one : (rest + size - 1) / size = 1 := by
      rw [show rest + size - 1 = rest - 1 + size by omega,
        Nat.add_div_right _ positive, Nat.div_eq_of_lt (by omega)]
    rw [if_neg empty, one]
    simp [Nat.add_comm]

end PageSize

namespace Pages

/-- The number of bytes in front of the page at an index. -/
def bytesBefore (pages : Pages) (index : Nat) : Nat :=
  index * pages.pageSize.bytes.toNat

/-- The number of bytes up to the end of the page at an index. -/
def bytesThrough (pages : Pages) (index : Nat) : Nat :=
  min pages.remaining.toNat ((index + 1) * pages.pageSize.bytes.toNat)

variable {pages rest : Pages} {size : UInt64}

theorem bytesThrough_zero_of_next?
    (step : pages.next? = some (size, rest)) :
    pages.bytesThrough 0 = size.toNat := by
  obtain ⟨_, isSize, _⟩ := size_of_next? step
  rw [bytesThrough, Nat.zero_add, Nat.one_mul, isSize]

/-- Behind a page that others follow is a full page less than before. -/
theorem size_eq_of_remaining
    (step : pages.next? = some (size, rest))
    (more : 0 < rest.remaining.toNat) :
    size.toNat = pages.pageSize.bytes.toNat := by
  obtain ⟨_, isSize, _⟩ := size_of_next? step
  have taken := remaining_of_next? step
  omega

/-- A page at an index behind the first is one index further on. -/
theorem bytesBefore_succ_of_next?
    {index : Nat}
    (step : pages.next? = some (size, rest))
    (inside : rest.bytesBefore index < rest.remaining.toNat) :
    pages.bytesBefore (index + 1) = size.toNat + rest.bytesBefore index := by
  have full := size_eq_of_remaining step (Nat.zero_lt_of_lt inside)
  obtain ⟨_, _, samePage⟩ := size_of_next? step
  rw [bytesBefore, bytesBefore, samePage, full, Nat.succ_mul, Nat.add_comm]

theorem bytesThrough_succ_of_next?
    {index : Nat}
    (step : pages.next? = some (size, rest))
    (inside : rest.bytesBefore index < rest.remaining.toNat) :
    pages.bytesThrough (index + 1) =
      size.toNat + rest.bytesThrough index := by
  have full := size_eq_of_remaining step (Nat.zero_lt_of_lt inside)
  have taken := remaining_of_next? step
  obtain ⟨_, _, samePage⟩ := size_of_next? step
  rw [bytesThrough, bytesThrough, samePage, ← taken, full, Nat.succ_mul,
    Nat.add_comm (_ * _), Nat.add_min_add_left]

/-- The pages of what remains are as many as it takes to hold it. -/
theorem length_toList (pages : Pages) :
    pages.toList.length =
      (pages.remaining.toNat + pages.pageSize.bytes.toNat - 1) /
        pages.pageSize.bytes.toNat := by
  rw [← PageSize.length_writeSizes, ← map_toNat_toList, List.length_map]

end Pages

namespace Payload

variable {Source : Type} [WordSource Source]

/-- How the sending of the pages that remain ends: with the letters of all of
them written, or broken off at the page of some index, or in front of a letter
that never comes. -/
inductive Sending
    (pages : Pages)
    (written : Nat)
    (source : Source)
    (stream : Stream) :
    Except (Stop TransportError) Nat -> Source -> Stream -> Prop
  | whole
      {body : List UInt8}
      {later : Source}
      {after : Stream}
      (drawn : letters pages.remaining.toNat source = some (body, later))
      (writing : stream.Writing body (.ok ()) after) :
      Sending pages written source stream
        (.ok (written + pages.toList.length)) later after
  | broken
      {stop : Stop TransportError}
      {later : Source}
      {after : Stream}
      (index : Nat)
      (ahead : List UInt8)
      (inside : pages.bytesBefore index < pages.remaining.toNat)
      (drawn : letters (pages.bytesThrough index) source =
        some (ahead, later))
      (writing : stream.Writing ahead (.error stop) after)
      (reached :
        stream.sent.length + pages.bytesBefore index ≤ after.sent.length)
      (disturbed : stream.Disturbed after) :
      Sending pages written source stream (.error stop) later after
  | dry
      {later : Source}
      {after : Stream}
      (endless : letters pages.remaining.toNat source = none) :
      Sending pages written source stream (.error (.halted .endless)) later
        after

/-- Behind a page that has been written the sending ends as that of the pages
behind it does. -/
theorem Sending.after_page
    {pages rest : Pages}
    {size : UInt64}
    {written : Nat}
    {source middle later : Source}
    {page : List UInt8}
    {stream between after : Stream}
    {result : Except (Stop TransportError) Nat}
    (step : pages.next? = some (size, rest))
    (drawn : letters size.toNat source = some (page, middle))
    (writingPage : stream.Writing page (.ok ()) between)
    (sending : Sending rest (written + 1) middle between result later after) :
    Sending pages written source stream result later after := by
  have taken := Pages.remaining_of_next? step
  cases writingPage with
  | whole wrote calm sent =>
      cases sending with
      | whole drawnRest writing =>
          rw [Nat.add_assoc, Nat.add_comm 1, ← List.length_cons,
            ← Pages.toList_of_some step]
          refine .whole ?_ (writing.after_whole page wrote calm sent)
          rw [← taken]
          exact letters_add_of_letters drawn drawnRest
      | broken index ahead inside drawnAhead writing reached disturbed =>
          refine .broken (index + 1) (page ++ ahead) ?_ ?_
            (writing.after_whole page wrote calm sent) ?_
            (disturbed.of_later wrote)
          · rw [Pages.bytesBefore_succ_of_next? step inside, ← taken]
            exact Nat.add_lt_add_left inside _
          · rw [Pages.bytesThrough_succ_of_next? step inside]
            exact letters_add_of_letters drawn drawnAhead
          · rw [Pages.bytesBefore_succ_of_next? step inside,
              ← length_of_letters drawn, ← Nat.add_assoc,
              ← List.length_append, ← sent]
            exact reached
      | dry endless =>
          refine .dry ?_
          rw [← taken, letters_add, drawn]
          dsimp only
          rw [endless]
          rfl

/-- The sending of pages ends in one of the three ways. -/
theorem sending_sendPages
    (pages : Pages)
    (written : Nat)
    (source : Source)
    (stream : Stream) :
    Sending pages written source stream
      (sendPages pages written source stream).1
      (sendPages pages written source stream).2.1
      (sendPages pages written source stream).2.2 := by
  fun_induction sendPages pages written source stream with
  | case1 pages written source stream step =>
      have none := Pages.toList_of_none step
      have empty := Pages.remaining_of_next?_eq_none step
      have whole : Sending pages written source stream
          (.ok (written + pages.toList.length)) source stream :=
        .whole (by rw [empty, letters_zero]) (.nothing stream)
      rwa [none] at whole
  | case2 pages written source stream size rest step smaller endless =>
      rw [fillPage_eq_letters] at endless
      refine .dry ?_
      rw [← Pages.remaining_of_next? step, letters_add, endless]
  | case3 pages written source stream size rest step smaller page later
      filled stop after failed =>
      have writing := Stream.writing_writeAll page stream
      rw [fillPage_eq_letters] at filled
      rw [failed] at writing
      obtain ⟨accepted, sent, _⟩ := writing.exists_accepted
      refine .broken 0 page ?_ ?_ writing ?_
        (Stream.disturbed_of_writeAll failed)
      · rw [Pages.bytesBefore, Nat.zero_mul]
        exact (Pages.size_of_next? step).1
      · rw [Pages.bytesThrough_zero_of_next? step]
        exact filled
      · rw [Pages.bytesBefore, Nat.zero_mul, sent, List.length_append]
        exact Nat.le_add_right _ _
  | case4 pages written source stream size rest step smaller page later
      filled after accepted hypothesis =>
      have writing := Stream.writing_writeAll page stream
      rw [fillPage_eq_letters] at filled
      rw [accepted] at writing
      exact .after_page step filled writing hypothesis

end Payload
end StreamLoad

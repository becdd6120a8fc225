import Mathlib.Algebra.GroupWithZero.Nat
import StreamLoad.Payload.Pages
import StreamLoad.Proofs.Random.Draw
import StreamLoad.Proofs.Transport.Dictation

/-!
# Bodies as dictations

Sending a body carries out the dictation of its pages. The bytes dictated are
the next letters of the source, as many as the pages hold together; with a
letter that is never drawn the dictation breaks off, and what it has dictated
is some of the letters in front.
-/

namespace StreamLoad

namespace Pages

theorem toList_of_none {pages : Pages} (step : pages.next? = none) :
    pages.toList = [] := by
  rw [toList]
  split
  · rfl
  · next found => simp [step] at found

theorem toList_of_some
    {pages rest : Pages}
    {size : UInt64}
    (step : pages.next? = some (size, rest)) :
    pages.toList = size :: rest.toList := by
  rw [toList]
  split
  · next found => simp [step] at found
  · next found =>
      rw [step] at found
      cases found
      rfl

/-- A step takes its page from what remains. -/
theorem remaining_of_next?
    {pages rest : Pages}
    {size : UInt64}
    (step : pages.next? = some (size, rest)) :
    size.toNat + rest.remaining.toNat = pages.remaining.toNat := by
  unfold next? at step
  split at step
  next => cases step
  next =>
    simp only [Option.some.injEq, Prod.mk.injEq] at step
    obtain ⟨rfl, rfl⟩ := step
    simp only
    split
    next => simp
    next larger =>
      have order : pages.pageSize.bytes ≤ pages.remaining :=
        UInt64.le_of_lt (UInt64.not_le.mp larger)
      have bound := UInt64.le_iff_toNat_le.mp order
      rw [UInt64.toNat_sub_of_le _ _ order]
      omega

theorem remaining_of_next?_eq_none
    {pages : Pages}
    (step : pages.next? = none) : pages.remaining.toNat = 0 := by
  unfold next? at step
  split at step
  next zero => simp [zero]
  next => cases step

/-- The pages hold together what remains. -/
theorem sum_toList (pages : Pages) :
    (pages.toList.map UInt64.toNat).sum = pages.remaining.toNat := by
  fun_induction toList pages with
  | case1 pages step =>
      rw [remaining_of_next?_eq_none step]
      rfl
  | case2 pages size rest step smaller hypothesis =>
      rw [List.map_cons, List.sum_cons, hypothesis, remaining_of_next? step]

end Pages

theorem PageSize.sum_pages (pageSize : PageSize) (total : UInt64) :
    ((pageSize.pages total).toList.map UInt64.toNat).sum = total.toNat :=
  (pageSize.pages total).sum_toList

namespace Payload

variable {Source : Type} [WordSource Source]

theorem sendPages_of_none
    {pages : Pages}
    (step : pages.next? = none)
    (written : Nat)
    (source : Source)
    (stream : Stream) :
    sendPages pages written source stream = (.ok written, source, stream) := by
  rw [sendPages]
  split
  · rfl
  · next found => simp [step] at found

/-- A page is drawn and written, and then the pages behind it. -/
theorem sendPages_of_some
    {pages rest : Pages}
    {size : UInt64}
    (step : pages.next? = some (size, rest))
    (written : Nat)
    (source : Source)
    (stream : Stream) :
    sendPages pages written source stream =
      match fillPage size.toNat source with
      | none => (.error (.halted .endless), source, stream)
      | some (page, later) =>
          match stream.writeAll page with
          | (.error stop, after) => (.error stop, later, after)
          | (.ok (), after) => sendPages rest (written + 1) later after := by
  rw [sendPages]
  split
  · next found => simp [step] at found
  · next found =>
      rw [step] at found
      cases found
      rfl

/-- A page that cannot be written is the last. -/
theorem sendPages_of_failed
    {pages rest : Pages}
    {size : UInt64}
    {source later : Source}
    {page : List UInt8}
    {stream after : Stream}
    {stop : Stop TransportError}
    (step : pages.next? = some (size, rest))
    (filled : fillPage size.toNat source = some (page, later))
    (failed : stream.writeAll page = (.error stop, after))
    (written : Nat) :
    sendPages pages written source stream = (.error stop, later, after) := by
  rw [sendPages_of_some step]
  simp only [filled, failed]

/-- Dictate pages of some sizes, after some have been written. The value is
the number of pages and the source behind them. -/
def dictate : List UInt64 -> Nat -> Source -> Dictation (Nat × Source)
  | [], written, source => .silent (.ok (written, source))
  | size :: sizes, written, source =>
      match fillPage size.toNat source with
      | none => .silent (.error .endless)
      | some (page, later) =>
          (Dictation.text page).andThen fun _ =>
            dictate sizes (written + 1) later

/-- What is seen of sending a body when the source is looked at only after
success. -/
def observed
    (outcome : Except (Stop TransportError) Nat × Source × Stream) :
    Except (Stop TransportError) (Nat × Source) × Stream :=
  (outcome.1.map fun written => (written, outcome.2.1), outcome.2.2)

/-- Sending pages carries out their dictation. -/
theorem observed_sendPages
    (pages : Pages)
    (written : Nat)
    (source : Source)
    (stream : Stream) :
    observed (sendPages pages written source stream) =
      (dictate pages.toList written source).carryOut stream := by
  fun_induction sendPages pages written source stream with
  | case1 pages written source stream step =>
      rw [Pages.toList_of_none step]
      rfl
  | case2 pages written source stream size rest step smaller endless =>
      rw [Pages.toList_of_some step, dictate, endless]
      rfl
  | case3 pages written source stream size rest step smaller page later
      filled stop after failed =>
      rw [Pages.toList_of_some step, dictate, filled]
      simp only [Dictation.carryOut_andThen, Dictation.carryOut_text, failed]
      rfl
  | case4 pages written source stream size rest step smaller page later
      filled after accepted hypothesis =>
      rw [Pages.toList_of_some step, dictate, filled]
      simp only [Dictation.carryOut_andThen, Dictation.carryOut_text,
        accepted]
      exact hypothesis

/-- Letters that are all drawn are dictated as they are drawn. -/
theorem dictate_of_letters
    {sizes : List UInt64}
    {source rest : Source}
    {body : List UInt8}
    (written : Nat)
    (drawn : letters (sizes.map UInt64.toNat).sum source =
      some (body, rest)) :
    (dictate sizes written source).bytes = body ∧
      (dictate sizes written source).ending =
        .ok (written + sizes.length, rest) := by
  induction sizes generalizing written source body with
  | nil =>
      cases drawn
      simp [dictate]
  | cons size sizes hypothesis =>
      rw [List.map_cons, List.sum_cons] at drawn
      obtain ⟨page, later, more, first, second, rfl⟩ :=
        exists_of_letters_add drawn
      obtain ⟨bytes, ending⟩ := hypothesis (written + 1) second
      rw [dictate, fillPage_eq_letters, first]
      dsimp only
      rw [Dictation.bytes_text_andThen, Dictation.ending_text_andThen,
        bytes, ending]
      refine ⟨rfl, ?_⟩
      rw [List.length_cons, Nat.add_assoc, Nat.add_comm 1]

/-- A letter that is never drawn breaks the dictation off, behind some of the
letters that the source yields. -/
theorem dictate_of_no_letters
    {sizes : List UInt64}
    {source : Source}
    (written : Nat)
    (endless : letters (sizes.map UInt64.toNat).sum source = none) :
    (dictate sizes written source).bytes <+:
        yielded (sizes.map UInt64.toNat).sum source ∧
      (dictate sizes written source).ending = .error .endless := by
  induction sizes generalizing written source with
  | nil => cases endless
  | cons size sizes hypothesis =>
      rw [List.map_cons, List.sum_cons, letters_add] at endless
      rw [dictate, fillPage_eq_letters, List.map_cons, List.sum_cons]
      rcases page : letters size.toNat source with _ | ⟨drawn, later⟩
      · simp
      · rw [page] at endless
        obtain ⟨bytes, ending⟩ :=
          hypothesis (written + 1) (Option.map_eq_none_iff.mp endless)
        dsimp only
        rw [Dictation.bytes_text_andThen, Dictation.ending_text_andThen,
          yielded_add_of_letters page]
        exact ⟨(List.prefix_append_right_inj drawn).mpr bytes, ending⟩

end Payload
end StreamLoad

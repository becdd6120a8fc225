import StreamLoad.Random.Draw
import StreamLoad.Transport.Stream

/-!
# Bodies in pages

A body goes out in pages: full pages as long as they fit, then one shorter page
for the rest. A page size is positive and small enough to be held in memory.
The pages still to come depend only on the number of bytes still to come.

A page of random letters is drawn whole before any of it is written, so a
failed write leaves the source behind the whole page. The first failure ends
the body.
-/

namespace StreamLoad

/-- A number of bytes that can be one page. -/
structure PageSize where
  bytes : UInt64
  positive : 0 < bytes.toNat
  allocatable : bytes.toNat < wordBound / 2
  deriving DecidableEq

namespace PageSize

/-- The page size unless told otherwise. -/
def standard : PageSize :=
  { bytes := 4096, positive := by decide, allocatable := by decide }

/-- A page size of some bytes; none and too many are faults. -/
def ofBytes (bytes : UInt64) : Except Fault PageSize :=
  if positive : 0 < bytes.toNat then
    if allocatable : bytes.toNat < wordBound / 2 then
      .ok { bytes, positive, allocatable }
    else
      .error .capacityOverflow
  else
    .error .zeroPageSize

end PageSize

/-- The pages of the remaining bytes of a body. -/
structure Pages where
  pageSize : PageSize
  remaining : UInt64
  deriving DecidableEq

namespace Pages

/-- The next page's size and the pages behind it. -/
def next? (pages : Pages) : Option (UInt64 × Pages) :=
  if pages.remaining = 0 then
    none
  else
    let size :=
      if pages.remaining ≤ pages.pageSize.bytes then
        pages.remaining
      else
        pages.pageSize.bytes
    some (size, { pages with remaining := pages.remaining - size })

theorem remaining_lt_of_next?
    {pages rest : Pages}
    {size : UInt64}
    (step : pages.next? = some (size, rest)) :
    rest.remaining.toNat < pages.remaining.toNat := by
  unfold next? at step
  split at step
  next => cases step
  next nonzero =>
    have positive := pages.pageSize.positive
    have remainingPositive : 0 < pages.remaining.toNat :=
      Nat.pos_of_ne_zero fun zero =>
        nonzero (UInt64.toNat_inj.mp zero)
    simp only [Option.some.injEq, Prod.mk.injEq] at step
    obtain ⟨sizeEqual, restEqual⟩ := step
    subst restEqual
    simp only
    split
    next => simpa using remainingPositive
    next larger =>
      have bound : pages.pageSize.bytes.toNat ≤ pages.remaining.toNat := by
        have order := UInt64.lt_iff_toNat_lt.mp (UInt64.not_le.mp larger)
        omega
      rw [UInt64.toNat_sub_of_le _ _ (UInt64.le_iff_toNat_le.mpr bound)]
      omega

/-- The sizes of the first pages, at most `count` many, and the pages behind
them. -/
def take : Nat -> Pages -> List UInt64 × Pages
  | 0, pages => ([], pages)
  | count + 1, pages =>
      match pages.next? with
      | none => ([], pages)
      | some (size, rest) =>
          let later := take count rest
          (size :: later.1, later.2)

/-- The sizes of all pages. -/
def toList (pages : Pages) : List UInt64 :=
  match step : pages.next? with
  | none => []
  | some (size, rest) =>
      have := remaining_lt_of_next? step
      size :: toList rest
termination_by pages.remaining.toNat
decreasing_by assumption

end Pages

namespace PageSize

/-- The pages of a body of some length. -/
def pages (pageSize : PageSize) (total : UInt64) : Pages :=
  { pageSize, remaining := total }

end PageSize

namespace Payload

variable {Source : Type} [WordSource Source]

/-- Draw and write the pages that remain, after some have been written. The
answer is the number of pages written. -/
def sendPages
    (pages : Pages)
    (written : Nat)
    (source : Source)
    (stream : Stream) :
    Except (Stop TransportError) Nat × Source × Stream :=
  match step : pages.next? with
  | none => (.ok written, source, stream)
  | some (size, rest) =>
      have := Pages.remaining_lt_of_next? step
      match fillPage size.toNat source with
      | none => (.error (.halted .endless), source, stream)
      | some (page, later) =>
          match stream.writeAll page with
          | (.error stop, after) => (.error stop, later, after)
          | (.ok (), after) => sendPages rest (written + 1) later after
termination_by pages.remaining.toNat
decreasing_by assumption

/-- Send a body of some length in pages of some size. -/
def send
    (pageSize : PageSize)
    (total : UInt64)
    (source : Source)
    (stream : Stream) :
    Except (Stop TransportError) Nat × Source × Stream :=
  sendPages (pageSize.pages total) 0 source stream

end Payload
end StreamLoad

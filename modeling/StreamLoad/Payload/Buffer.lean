import StreamLoad.Payload.Pages

/-!
# Sending out of a page that is kept

A body may be sent out of one page that is kept and filled again for each write.
A write needs the front of the page: every byte there is replaced by a random
letter and the front is written, while what earlier writes have left behind it
stays. The page is full of zeros at first, and only what has been filled since
is held.
-/

namespace StreamLoad

/-- A page that is kept: its size, and the bytes at its front that have been
filled so far. All bytes behind them are zero. -/
structure PageBuffer where
  pageSize : PageSize
  filled : List UInt8
  deriving DecidableEq

namespace PageBuffer

/-- A page of zeros. -/
def blank (pageSize : PageSize) : PageBuffer :=
  { pageSize, filled := [] }

/-- The first bytes of the page. -/
def front (buffer : PageBuffer) (size : Nat) : List UInt8 :=
  buffer.filled.take size ++
    List.replicate (size - buffer.filled.length) 0

/-- The page with its first bytes replaced. -/
def refill (buffer : PageBuffer) (bytes : List UInt8) : PageBuffer :=
  { buffer with filled := bytes ++ buffer.filled.drop bytes.length }

@[simp] theorem length_front (buffer : PageBuffer) (size : Nat) :
    (buffer.front size).length = size := by
  rw [front, List.length_append, List.length_take, List.length_replicate]
  omega

/-- The front of the page is what it has been replaced by. -/
@[simp] theorem front_refill (buffer : PageBuffer) (bytes : List UInt8) :
    (buffer.refill bytes).front bytes.length = bytes := by
  simp [front, refill]

variable {Source : Type} [WordSource Source]

/-- Replace the bytes of a slice by random letters, one after the other. The
letters drawn before come in reverse. -/
def overwrite :
    List UInt8 -> List UInt8 -> Source -> Option (List UInt8 × Source)
  | [], drawn, source => some (drawn.reverse, source)
  | _ :: slice, drawn, source =>
      match drawLetter source with
      | none => none
      | some (letter, rest) => overwrite slice (letter :: drawn) rest

/-- Every byte of a slice is replaced, whatever it was. -/
theorem overwrite_eq_collectLetters
    (slice drawn : List UInt8)
    (source : Source) :
    overwrite slice drawn source =
      collectLetters slice.length drawn source := by
  induction slice generalizing drawn source with
  | nil => rfl
  | cons byte slice hypothesis =>
      rw [overwrite, List.length_cons, collectLetters]
      cases drawLetter source with
      | none => rfl
      | some first => exact hypothesis (first.1 :: drawn) first.2

/-- Fill the front of the page for each page that remains, and write it. The
answer is the number of pages written. -/
def sendPages
    (pages : Pages)
    (written : Nat)
    (buffer : PageBuffer)
    (source : Source)
    (stream : Stream) :
    Except (Stop TransportError) Nat × PageBuffer × Source × Stream :=
  match step : pages.next? with
  | none => (.ok written, buffer, source, stream)
  | some (size, rest) =>
      have := Pages.remaining_lt_of_next? step
      match overwrite (buffer.front size.toNat) [] source with
      | none => (.error (.halted .endless), buffer, source, stream)
      | some (letters, later) =>
          let refilled := buffer.refill letters
          match stream.writeAll (refilled.front size.toNat) with
          | (.error stop, after) => (.error stop, refilled, later, after)
          | (.ok (), after) =>
              sendPages rest (written + 1) refilled later after
termination_by pages.remaining.toNat
decreasing_by assumption

/-- Send a body of some length out of the page. -/
def send
    (buffer : PageBuffer)
    (total : UInt64)
    (source : Source)
    (stream : Stream) :
    Except (Stop TransportError) Nat × PageBuffer × Source × Stream :=
  sendPages (buffer.pageSize.pages total) 0 buffer source stream

end PageBuffer
end StreamLoad

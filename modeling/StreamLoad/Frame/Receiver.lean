import StreamLoad.Frame.Header

/-!
# Reading a connection as frames

A receiver takes a header, then as many bytes as a data header announces, and
starts again behind them. Since every frame says where it ends, the bytes of a
connection have one reading as frames; a reading stops at the end, inside a
header, inside a body, or at a tag that is no command.
-/

namespace StreamLoad

/-- A header and the body behind it. -/
structure Frame where
  header : Header
  body : List UInt8
  deriving DecidableEq, Repr

namespace Header

/-- The number of body bytes behind a header; only data has a body. -/
def bodyLength (header : Header) : Nat :=
  match header.command with
  | .data => header.length.toNat
  | .hangup => 0
  | .shutdown => 0

theorem size_le_length_of_decode
    {bytes : List UInt8}
    {header : Header}
    (decoded : decode bytes = .ok header) :
    size ≤ bytes.length := by
  unfold decode at decoded
  split at decoded
  next => cases decoded
  next enough => exact Nat.le_of_not_lt enough

end Header

namespace Frame

/-- The bytes of a frame on the wire. -/
def encode (frame : Frame) : List UInt8 :=
  frame.header.encode ++ frame.body

/-- The body is exactly as long as the header says. -/
def WellFormed (frame : Frame) : Prop :=
  frame.body.length = frame.header.bodyLength

instance (frame : Frame) : Decidable frame.WellFormed :=
  inferInstanceAs (Decidable (_ = _))

end Frame

/-- Where the reading of a connection stops. -/
inductive ReceptionEnd
  | complete
  | insideHeader (error : HeaderError)
  | insideBody (header : Header) (received : List UInt8)
  deriving DecidableEq, Repr

/-- The frames read from a connection and where the reading stops. -/
structure Reception where
  frames : List Frame
  ending : ReceptionEnd
  deriving DecidableEq, Repr

namespace Reception

/-- Put a frame in front of those already read. -/
def prepend (frame : Frame) (reception : Reception) : Reception :=
  { reception with frames := frame :: reception.frames }

end Reception

/-- Read bytes as frames, one behind the other. -/
def receive (bytes : List UInt8) : Reception :=
  if bytes.isEmpty then
    { frames := [], ending := .complete }
  else
    match decoded : Header.decode bytes with
    | .error error => { frames := [], ending := .insideHeader error }
    | .ok header =>
        have := Header.size_le_length_of_decode decoded
        let rest := bytes.drop Header.size
        if rest.length < header.bodyLength then
          { frames := [], ending := .insideBody header rest }
        else
          (receive (rest.drop header.bodyLength)).prepend
            { header, body := rest.take header.bodyLength }
termination_by bytes.length
decreasing_by
  simp only [List.length_drop, Header.size] at *
  omega

end StreamLoad

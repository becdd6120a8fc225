import StreamLoad.Frame.Header
import StreamLoad.Payload.Pages
import StreamLoad.Plan
import StreamLoad.Session.Error

/-!
# Sessions

A session sends streams over one connection: for each a data header and a body
of random letters. It ends with a hangup, which the other side acknowledges by
one byte of any value, or with a shutdown, which is not acknowledged. Closing
may fail without changing the result. A stream that could not be sent leaves
the session open; the operations that end it give back only the byte stream.
-/

namespace StreamLoad

/-- What every session of a run is told: the size of a page, and how long to
wait for an acknowledgment. -/
structure SessionOptions where
  pageSize : UInt64
  ackTimeout : Option Duration
  deriving DecidableEq, Repr

/-- What a session that ended well has sent. The local address of its connection
is left out: it is shown in log lines and decides nothing. -/
structure SessionSummary where
  idPrefix : UInt64
  streams : Nat
  bytes : UInt64
  deriving DecidableEq, Repr

/-- A session in progress. -/
structure Session (Source : Type) where
  stream : Stream
  source : Source
  idPrefix : UInt64
  plan : Plan
  pageSize : PageSize
  ackTimeout : Option Duration
  streamsSent : Nat
  bytesSent : UInt64

namespace Session

variable {Source : Type}

/-- Begin a session on a connected stream. -/
def start
    (stream : Stream)
    (idPrefix : UInt64)
    (plan : Plan)
    (source : Source)
    (options : SessionOptions) :
    Except Fault (Session Source) :=
  match PageSize.ofBytes options.pageSize with
  | .error fault => .error fault
  | .ok pageSize =>
      .ok
        { stream
          source
          idPrefix
          plan
          pageSize
          ackTimeout := options.ackTimeout
          streamsSent := 0
          bytesSent := 0 }

/-- The id of the stream at an index, inside the plan or not. -/
def streamId (session : Session Source) (index : UInt64) :
    Except Fault UInt64 :=
  checkedAdd session.idPrefix index

/-- The header of the stream at an index. The id is computed before the plan
is consulted. -/
def streamHeader (session : Session Source) (index : UInt64) :
    Except Fault Header :=
  match session.streamId index with
  | .error fault => .error fault
  | .ok id =>
      match session.plan.lengthAt index with
      | .error fault => .error fault
      | .ok length => .ok (.data id length)

/-- Write a header. -/
def sendHeader (session : Session Source) (header : Header) :
    Except (Stop SessionError) Unit × Session Source :=
  match session.stream.writeAll header.encode with
  | (.ok (), stream) => (.ok (), { session with stream })
  | (.error stop, stream) =>
      (.error (stop.map .transmit), { session with stream })

/-- Count a stream that has been sent. The sum of the lengths is checked. The
number of streams needs no check: it grows by one for a call that has written a
header of 26 bytes, and no session lives to make `2 ^ 64` such calls. -/
def recordSent (session : Session Source) (length : UInt64) :
    Except (Stop SessionError) UInt64 × Session Source :=
  let counted := { session with streamsSent := session.streamsSent + 1 }
  match checkedAdd session.bytesSent length with
  | .error fault => (.error (.halted (.fault fault)), counted)
  | .ok total => (.ok length, { counted with bytesSent := total })

/-- What a session that hangs up now reports. -/
def summary (session : Session Source) : SessionSummary :=
  { idPrefix := session.idPrefix
    streams := session.streamsSent
    bytes := session.bytesSent }

/-- Close the stream; the exchange is complete, so a failure changes nothing. -/
def close (session : Session Source) : Stream :=
  session.stream.close.2

/-- Wait for the byte that acknowledges a hangup. -/
def readAck (session : Session Source) :
    Except (Stop SessionError) UInt8 × Session Source :=
  match session.stream.awaitByte session.ackTimeout with
  | (.byte value, stream) => (.ok value, { session with stream })
  | (.closed, stream) =>
      (.error (.failed .ackClosed), { session with stream })
  | (.failed error, stream) =>
      if error.kind = .unexpectedEof then
        (.error (.failed .ackClosed), { session with stream })
      else
        (.error (.failed (.ackRead error)), { session with stream })
  | (.expired, stream) =>
      match session.ackTimeout with
      | some limit =>
          (.error (.failed (.ackTimeout limit)), { session with stream })
      | none => (.error (.halted .endless), { session with stream })
  | (.never, stream) => (.error (.halted .endless), { session with stream })

/-- Wait for the acknowledgment of a hangup and close. -/
def conclude (session : Session Source) :
    Except (Stop SessionError) SessionSummary × Stream :=
  match session.readAck with
  | (.error stop, after) => (.error stop, after.stream)
  | (.ok _, after) => (.ok after.summary, after.close)

/-- Write the hangup header, wait for the acknowledgment and close. -/
def hangup (session : Session Source) :
    Except (Stop SessionError) SessionSummary × Stream :=
  match session.sendHeader .hangup with
  | (.error stop, after) => (.error stop, after.stream)
  | (.ok (), after) => after.conclude

/-- Write the shutdown header and close, without waiting for anything. Left out
is an event that a session with a plan logs before, at the level `debug`: looking
at it subtracts the streams sent from those planned, which is a fault when more
have been sent. The shutdown of a load run has no plan and logs no such event. -/
def shutdown (session : Session Source) :
    Except (Stop SessionError) Unit × Stream :=
  match session.sendHeader .shutdown with
  | (.error stop, after) => (.error stop, after.stream)
  | (.ok (), after) => (.ok (), after.close)

variable [WordSource Source]

/-- Write the body of a stream. -/
def sendBody (session : Session Source) (length : UInt64) :
    Except (Stop SessionError) Unit × Session Source :=
  match Payload.send session.pageSize length session.source session.stream with
  | (.ok _, source, stream) => (.ok (), { session with source, stream })
  | (.error stop, source, stream) =>
      (.error (stop.map .transmit), { session with source, stream })

/-- Send the stream at an index: its header, then its body. An index without a
header is a fault before anything is written. -/
def sendStream (session : Session Source) (index : UInt64) :
    Except (Stop SessionError) UInt64 × Session Source :=
  match session.streamHeader index with
  | .error fault => (.error (.halted (.fault fault)), session)
  | .ok header =>
      match session.sendHeader header with
      | (.error stop, after) => (.error stop, after)
      | (.ok (), after) =>
          match after.sendBody header.length with
          | (.error stop, final) => (.error stop, final)
          | (.ok (), final) => final.recordSent header.length

/-- Send a number of streams, beginning at an index, up to the first that
fails. -/
def sendFrom : Nat -> Nat -> Session Source ->
    Except (Stop SessionError) Unit × Session Source
  | 0, _, session => (.ok (), session)
  | count + 1, index, session =>
      match session.sendStream (UInt64.ofNat index) with
      | (.error stop, after) => (.error stop, after)
      | (.ok _, after) => sendFrom count (index + 1) after

/-- Send every stream of the plan, then hang up. -/
def run (session : Session Source) :
    Except (Stop SessionError) SessionSummary × Stream :=
  match sendFrom session.plan.size 0 session with
  | (.error stop, after) => (.error stop, after.stream)
  | (.ok (), after) => after.hangup

end Session
end StreamLoad

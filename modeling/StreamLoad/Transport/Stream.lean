import StreamLoad.Duration
import StreamLoad.Fault
import StreamLoad.Transport.Error

/-!
# Scripted byte streams

A stream follows a script: how many bytes one write accepts at most, which
write attempts fail and how, what comes back, and whether closing fails. The
stream keeps what it accepted and counts attempts, completed reads and closes.
Writing a whole text repeats after a partial accept and after an interruption;
nothing else is tried again. Waiting for a byte takes no real time: delays are
added up and compared with the limit.
-/

namespace StreamLoad

/-- What comes back from the other side, in order. -/
inductive ReadItem
  | byte (value : UInt8)
  | closed
  | error (cause : TransportError)
  | delay (milliseconds : Nat)
  | pending
  deriving DecidableEq, Repr

/-- How a stream takes writes and the closing. -/
structure Script where
  writeCap : Option Nat
  writeFaults : List (Nat × TransportError)
  failFrom : Option (Nat × TransportError)
  closeError : Option TransportError
  deriving DecidableEq, Repr

namespace Script

/-- Every write is accepted whole and closing succeeds. -/
def reliable : Script :=
  { writeCap := none, writeFaults := [], failFrom := none, closeError := none }

/-- The error of a write attempt, if it fails. A numbered fault goes before
the fault that holds from some attempt on. -/
def faultAt (script : Script) (attempt : Nat) : Option TransportError :=
  match script.writeFaults.lookup attempt with
  | some error => some error
  | none =>
      match script.failFrom with
      | some (start, error) => if start ≤ attempt then some error else none
      | none => none

/-- The part of an offer that one write accepts. -/
def acceptedPart (script : Script) (bytes : List UInt8) : List UInt8 :=
  match script.writeCap with
  | some cap => bytes.take cap
  | none => bytes

/-- An attempt number above those of all numbered faults. -/
def horizon (script : Script) : Nat :=
  script.writeFaults.foldr (fun fault bound => max (fault.1 + 1) bound) 0

end Script

/-- A byte stream and what happened on it so far. The accepted writes and the
items still to be read stand in order. -/
structure Stream where
  script : Script
  attempts : Nat
  accepted : Array (List UInt8)
  incoming : List ReadItem
  readCount : Nat
  closeCount : Nat
  deriving DecidableEq, Repr

/-- How the wait for a byte ends. -/
inductive Arrival
  | byte (value : UInt8)
  | closed
  | failed (error : TransportError)
  | expired
  | never
  deriving DecidableEq, Repr

namespace Stream

/-- A stream on which nothing has happened. -/
def start (script : Script) (incoming : List ReadItem) : Stream :=
  { script, attempts := 0, accepted := #[], incoming, readCount := 0,
    closeCount := 0 }

/-- The bytes accepted so far. -/
def sent (stream : Stream) : List UInt8 :=
  stream.accepted.toList.flatten

/-- The stream after an attempt that accepted nothing. -/
def refuse (stream : Stream) : Stream :=
  { stream with attempts := stream.attempts + 1 }

/-- The stream after an attempt that accepted some bytes. -/
def accept (stream : Stream) (bytes : List UInt8) : Stream :=
  { stream with
    attempts := stream.attempts + 1
    accepted := stream.accepted.push bytes }

@[simp] theorem sent_refuse (stream : Stream) :
    stream.refuse.sent = stream.sent := rfl

@[simp] theorem sent_accept (stream : Stream) (bytes : List UInt8) :
    (stream.accept bytes).sent = stream.sent ++ bytes := by
  simp [sent, accept]

/-- Write all of some bytes. Accepting no byte of an offer is an error. An
interruption is tried again at once; behind the last numbered fault it would
come for ever. -/
def writeAll (bytes : List UInt8) (stream : Stream) :
    Except (Stop TransportError) Unit × Stream :=
  match bytes with
  | [] => (.ok (), stream)
  | byte :: more =>
      match stream.script.faultAt stream.attempts with
      | some error =>
          if error.kind = .interrupted then
            if stream.attempts < stream.script.horizon then
              writeAll (byte :: more) stream.refuse
            else
              (.error (.halted .endless), stream.refuse)
          else
            (.error (.failed error), stream.refuse)
      | none =>
          match stream.script.acceptedPart (byte :: more) with
          | [] => (.error (.failed .writeZero), stream.refuse)
          | first :: part =>
              writeAll ((byte :: more).drop (first :: part).length)
                (stream.accept (first :: part))
termination_by (bytes.length, stream.script.horizon - stream.attempts)
decreasing_by
  · apply Prod.Lex.right
    simp only [refuse]
    omega
  · apply Prod.Lex.left
    simp only [List.length_drop, List.length_cons]
    omega

/-- Follow the items that come back until one ends the wait. The answer holds
what ended it, the items behind it and the number of reads completed. An
interrupted read is completed and repeated. -/
def awaitFrom (limit : Option Duration) :
    Duration -> List ReadItem -> Arrival × List ReadItem × Nat
  | _, [] => (.closed, [], 1)
  | _, .byte value :: rest => (.byte value, rest, 1)
  | _, .closed :: rest => (.closed, rest, 1)
  | elapsed, .error cause :: rest =>
      if cause.kind = .interrupted then
        let later := awaitFrom limit elapsed rest
        (later.1, later.2.1, later.2.2 + 1)
      else
        (.failed cause, rest, 1)
  | elapsed, .delay milliseconds :: rest =>
      let total := elapsed.add (.ofMilliseconds milliseconds)
      match limit with
      | none => awaitFrom limit total rest
      | some bound =>
          if total.Within bound then
            awaitFrom limit total rest
          else
            (.expired, rest, 0)
  | _, .pending :: rest =>
      match limit with
      | none => (.never, .pending :: rest, 0)
      | some _ => (.expired, .pending :: rest, 0)

/-- Wait for one byte, for ever or up to a limit. -/
def awaitByte (limit : Option Duration) (stream : Stream) :
    Arrival × Stream :=
  let result := awaitFrom limit .zero stream.incoming
  (result.1,
    { stream with
      incoming := result.2.1
      readCount := stream.readCount + result.2.2 })

/-- Close the stream and tell whether that failed. -/
def close (stream : Stream) : Option TransportError × Stream :=
  (stream.script.closeError,
    { stream with closeCount := stream.closeCount + 1 })

end Stream
end StreamLoad

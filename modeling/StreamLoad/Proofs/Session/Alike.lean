import StreamLoad.Proofs.Session.Acknowledgment
import StreamLoad.Proofs.Session.Dictation
import StreamLoad.Proofs.Transport.Alike

/-!
# Sessions over streams that take writes alike

What a session writes does not depend on its stream. So two runs of a session
over streams that take writes alike either end alike, or both send the whole of
a hangup and differ only in what comes back to it. A shutdown waits for nothing
and ends alike.
-/

namespace StreamLoad
namespace Session

variable {Source : Type}

/-- The session over another stream. -/
def withStream (session : Session Source) (stream : Stream) : Session Source :=
  { session with stream }

/-- The session over another stream and with another limit of its wait. -/
def facing
    (session : Session Source)
    (stream : Stream)
    (limit : Option Duration) : Session Source :=
  { session with
    stream
    ackTimeout := limit }

section Facing

variable (session : Session Source)
variable (stream : Stream)
variable (limit : Option Duration)

@[simp] theorem stream_facing :
    (session.facing stream limit).stream = stream := rfl

@[simp] theorem source_facing :
    (session.facing stream limit).source = session.source := rfl

@[simp] theorem pageSize_facing :
    (session.facing stream limit).pageSize = session.pageSize := rfl

@[simp] theorem bytesSent_facing :
    (session.facing stream limit).bytesSent = session.bytesSent := rfl

@[simp] theorem streamId_facing :
    (session.facing stream limit).streamId = session.streamId := rfl

@[simp] theorem streamHeader_facing :
    (session.facing stream limit).streamHeader = session.streamHeader := rfl

end Facing

theorem start_withStream
    (stream other : Stream)
    (idPrefix : UInt64)
    (plan : Plan)
    (source : Source)
    (options : SessionOptions) :
    start other idPrefix plan source options =
      (start stream idPrefix plan source options).map
        fun session => session.withStream other := by
  unfold start
  cases PageSize.ofBytes options.pageSize <;> rfl

/-- Concluding a session writes nothing. -/
theorem writesAlike_conclude (session : Session Source) :
    session.stream.WritesAlike session.conclude.2 := by
  rw [conclude_eq]
  cases (session.stream.awaitByte session.ackTimeout).1.verdict
    session.ackTimeout <;> exact ⟨.refl _, rfl, rfl⟩

theorem endAlike_shutdown_facing
    (session : Session Source)
    {stream : Stream}
    (limit : Option Duration)
    (alike : session.stream.WritesAlike stream) :
    Stream.EndAlike session.shutdown
      (session.facing stream limit).shutdown := by
  have written := Stream.endAlike_writeAll Header.shutdown.encode alike
  unfold shutdown sendHeader facing
  dsimp only
  generalize session.stream.writeAll Header.shutdown.encode = outcome
    at written ⊢
  generalize stream.writeAll Header.shutdown.encode = other at written ⊢
  cases written with
  | intro result later =>
      cases result with
      | error stop => exact .intro _ later
      | ok => exact .intro _ ⟨later.script, later.attempts, later.accepted⟩

theorem endAlike_shutdown
    (session : Session Source)
    {stream : Stream}
    (alike : session.stream.WritesAlike stream) :
    Stream.EndAlike session.shutdown (session.withStream stream).shutdown :=
  session.endAlike_shutdown_facing session.ackTimeout alike

/-- Two operations that end a session end alike, or both have sent the whole of
a hangup and differ only in what comes back to it. -/
inductive FinishAlike
    (session : Session Source)
    (stream : Stream)
    (limit : Option Duration)
    (first second : Except (Stop SessionError) SessionSummary × Stream) : Prop
  | stopped (alike : Stream.EndAlike first second)
  | concluded
      {after afterToo : Stream}
      (progress : Progress Source)
      (alike : after.WritesAlike afterToo)
      (wrote : session.stream.WroteOnly after)
      (wroteToo : stream.WroteOnly afterToo)
      (concludes : first = (session.resume progress after).conclude)
      (concludesToo : second =
        ((session.facing stream limit).resume progress afterToo).conclude)

theorem finishAlike_hangup
    (session : Session Source)
    {stream : Stream}
    (limit : Option Duration)
    (alike : session.stream.WritesAlike stream) :
    session.FinishAlike stream limit session.hangup
      (session.facing stream limit).hangup := by
  have written := Stream.endAlike_writeAll Header.hangup.encode alike
  have wrote :=
    (session.stream.writing_writeAll Header.hangup.encode).wroteOnly
  have wroteToo := (stream.writing_writeAll Header.hangup.encode).wroteOnly
  unfold hangup sendHeader
  rw [stream_facing]
  generalize session.stream.writeAll Header.hangup.encode = outcome
    at written wrote ⊢
  generalize stream.writeAll Header.hangup.encode = other
    at written wroteToo ⊢
  cases written with
  | intro result later =>
      cases result with
      | error stop => exact .stopped (.intro _ later)
      | ok =>
          exact .concluded session.progress later wrote wroteToo rfl rfl

variable [WordSource Source]

theorem dictateFrom_facing
    (session : Session Source)
    (stream : Stream)
    (limit : Option Duration)
    (count index : Nat) :
    (session.facing stream limit).dictateFrom count index =
      session.dictateFrom count index := by
  induction count generalizing index with
  | zero => rfl
  | succ count hypothesis =>
      funext progress
      rw [dictateFrom, dictateFrom, hypothesis]
      rfl

/-- What a session wants to write depends neither on its stream nor on the limit
of its wait. -/
theorem dictation_facing
    (session : Session Source)
    (stream : Stream)
    (limit : Option Duration) :
    (session.facing stream limit).dictation = session.dictation := by
  unfold dictation
  rw [dictateFrom_facing]
  rfl

theorem dictation_withStream (session : Session Source) (stream : Stream) :
    (session.withStream stream).dictation = session.dictation :=
  session.dictation_facing stream session.ackTimeout

theorem finishAlike_run
    (session : Session Source)
    {stream : Stream}
    (limit : Option Duration)
    (alike : session.stream.WritesAlike stream) :
    session.FinishAlike stream limit session.run
      (session.facing stream limit).run := by
  have written := session.dictation.endAlike_carryOut alike
  have wrote := session.dictation.wroteOnly_carryOut session.stream
  have wroteToo := session.dictation.wroteOnly_carryOut stream
  rw [run_eq, run_eq, dictation_facing, stream_facing]
  generalize session.dictation.carryOut session.stream = outcome
    at written wrote ⊢
  generalize session.dictation.carryOut stream = other at written wroteToo ⊢
  cases written with
  | intro result later =>
      cases result with
      | error stop => exact .stopped (.intro _ later)
      | ok progress => exact .concluded progress later wrote wroteToo rfl rfl

/-- Two runs of a session over streams that take writes alike end alike, or
both conclude what they have sent whole. -/
theorem run_withStream
    (session : Session Source)
    {stream : Stream}
    (alike : session.stream.WritesAlike stream) :
    Stream.EndAlike session.run (session.withStream stream).run ∨
      ∃ progress after afterToo,
        after.WritesAlike afterToo ∧
          session.run = (session.resume progress after).conclude ∧
          (session.withStream stream).run =
            (session.resume progress afterToo).conclude := by
  cases session.finishAlike_run session.ackTimeout alike with
  | stopped ends => exact .inl ends
  | concluded progress later wrote wroteToo concludes concludesToo =>
      exact .inr ⟨progress, _, _, later, concludes, concludesToo⟩

end Session
end StreamLoad

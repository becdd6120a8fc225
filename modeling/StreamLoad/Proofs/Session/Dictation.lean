import StreamLoad.Proofs.Payload.Dictation
import StreamLoad.Session.Basic

/-!
# Sessions as dictations

A run of a session carries out one dictation, for each stream of the plan its
header and the pages of its body, and then the hangup header. Only behind the
last text of the dictation does the session wait for the acknowledgment and
close.
-/

namespace StreamLoad

/-- What a session changes of itself beside its stream. -/
structure Progress (Source : Type) where
  source : Source
  streamsSent : Nat
  bytesSent : UInt64

namespace Progress

variable {Source : Type}

/-- Count a stream that has been sent. -/
def record (progress : Progress Source) (length : UInt64) :
    Except Halt (Progress Source) :=
  match checkedAdd progress.bytesSent length with
  | .error fault => .error (.fault fault)
  | .ok total =>
      .ok
        { progress with
          streamsSent := progress.streamsSent + 1
          bytesSent := total }

end Progress

namespace Session

variable {Source : Type}

/-- How far the session has come. -/
def progress (session : Session Source) : Progress Source :=
  { source := session.source
    streamsSent := session.streamsSent
    bytesSent := session.bytesSent }

/-- The session with its stream at some moment and with some progress. -/
def resume
    (session : Session Source)
    (progress : Progress Source)
    (stream : Stream) : Session Source :=
  { session with
    stream
    source := progress.source
    streamsSent := progress.streamsSent
    bytesSent := progress.bytesSent }

theorem sendHeader_resume
    (session : Session Source)
    (header : Header)
    (progress : Progress Source)
    (stream : Stream) :
    match stream.writeAll header.encode with
    | (.error stop, after) =>
        (session.resume progress stream).sendHeader header =
          (.error (stop.map .transmit), session.resume progress after)
    | (.ok (), after) =>
        (session.resume progress stream).sendHeader header =
          (.ok (), session.resume progress after) := by
  unfold sendHeader resume
  dsimp only
  rcases stream.writeAll header.encode with ⟨stop | ⟨⟩, after⟩ <;> rfl

theorem recordSent_resume
    (session : Session Source)
    (progress : Progress Source)
    (stream : Stream)
    (length : UInt64) :
    match progress.record length with
    | .error halt =>
        ((session.resume progress stream).recordSent length).1 =
            .error (.halted halt) ∧
          ((session.resume progress stream).recordSent length).2.stream =
            stream
    | .ok later =>
        (session.resume progress stream).recordSent length =
          (.ok length, session.resume later stream) := by
  unfold Progress.record recordSent resume
  dsimp only
  cases checkedAdd progress.bytesSent length with
  | error fault => exact ⟨rfl, rfl⟩
  | ok total => rfl

variable [WordSource Source]

/-- Dictate the stream at an index. -/
def dictateStream
    (session : Session Source)
    (index : UInt64)
    (progress : Progress Source) : Dictation (Progress Source) :=
  match session.streamHeader index with
  | .error fault => .silent (.error (.fault fault))
  | .ok header =>
      (Dictation.text header.encode).andThen fun _ =>
        (Payload.dictate (session.pageSize.pages header.length).toList 0
          progress.source).andThen fun body =>
            .silent ({ progress with source := body.2 }.record header.length)

/-- Dictate a number of streams, beginning at an index. -/
def dictateFrom (session : Session Source) :
    Nat -> Nat -> Progress Source -> Dictation (Progress Source)
  | 0, _, progress => .silent (.ok progress)
  | count + 1, index, progress =>
      (session.dictateStream (UInt64.ofNat index) progress).andThen
        (dictateFrom session count (index + 1))

/-- Dictate every stream of the plan and then the hangup. -/
def dictation (session : Session Source) : Dictation (Progress Source) :=
  (session.dictateFrom session.plan.size 0 session.progress).andThen
    fun progress =>
      (Dictation.text Header.hangup.encode).andThen fun _ =>
        .silent (.ok progress)

/-- Sending a body carries out the dictation of its pages. -/
theorem sendBody_resume
    (session : Session Source)
    (length : UInt64)
    (progress : Progress Source)
    (stream : Stream) :
    match (Payload.dictate (session.pageSize.pages length).toList 0
      progress.source).carryOut stream with
    | (.error stop, after) =>
        ((session.resume progress stream).sendBody length).1 =
            .error (stop.map .transmit) ∧
          ((session.resume progress stream).sendBody length).2.stream = after
    | (.ok body, after) =>
        (session.resume progress stream).sendBody length =
          (.ok (),
            session.resume { progress with source := body.2 } after) := by
  rw [← Payload.observed_sendPages]
  unfold sendBody Payload.send Payload.observed resume
  dsimp only
  rcases Payload.sendPages (session.pageSize.pages length) 0 progress.source
    stream with ⟨stop | written, later, after⟩
  · exact ⟨rfl, rfl⟩
  · rfl

/-- Sending a stream carries out its dictation. -/
theorem sendStream_resume
    (session : Session Source)
    (index : UInt64)
    (progress : Progress Source)
    (stream : Stream) :
    match (session.dictateStream index progress).carryOut stream with
    | (.error stop, after) =>
        ((session.resume progress stream).sendStream index).1 =
            .error (stop.map .transmit) ∧
          ((session.resume progress stream).sendStream index).2.stream = after
    | (.ok later, after) =>
        ∃ length, (session.resume progress stream).sendStream index =
          (.ok length, session.resume later after) := by
  have sameHeader :
      (session.resume progress stream).streamHeader index =
        session.streamHeader index := rfl
  unfold dictateStream sendStream
  rw [sameHeader]
  cases session.streamHeader index with
  | error fault => exact ⟨rfl, rfl⟩
  | ok header =>
      have announced := session.sendHeader_resume header progress stream
      simp only [Dictation.carryOut_andThen, Dictation.carryOut_text]
      generalize stream.writeAll header.encode = written at announced ⊢
      obtain ⟨stop | ⟨⟩, middle⟩ := written
      · dsimp only at announced ⊢
        rw [announced]
        exact ⟨rfl, rfl⟩
      · dsimp only at announced ⊢
        rw [announced]
        have sent := session.sendBody_resume header.length progress middle
        dsimp only
        generalize (Payload.dictate
          (session.pageSize.pages header.length).toList 0
          progress.source).carryOut middle = written at sent ⊢
        obtain ⟨stop | body, after⟩ := written
        · dsimp only at sent ⊢
          generalize (session.resume progress middle).sendBody
            header.length = outcome at sent ⊢
          obtain ⟨result, final⟩ := outcome
          obtain ⟨rfl, rfl⟩ := sent
          exact ⟨rfl, rfl⟩
        · dsimp only at sent ⊢
          rw [sent]
          have counted := session.recordSent_resume
            { progress with source := body.2 } after header.length
          dsimp only
          generalize Progress.record { progress with source := body.2 }
            header.length = recorded at counted ⊢
          cases recorded with
          | error halt => exact counted
          | ok later => exact ⟨header.length, counted⟩

/-- Sending streams one after the other carries out their dictation. -/
theorem sendFrom_resume
    (session : Session Source)
    (count index : Nat)
    (progress : Progress Source)
    (stream : Stream) :
    match (session.dictateFrom count index progress).carryOut stream with
    | (.error stop, after) =>
        (sendFrom count index (session.resume progress stream)).1 =
            .error (stop.map .transmit) ∧
          (sendFrom count index
            (session.resume progress stream)).2.stream = after
    | (.ok later, after) =>
        sendFrom count index (session.resume progress stream) =
          (.ok (), session.resume later after) := by
  induction count generalizing index progress stream with
  | zero => rfl
  | succ count hypothesis =>
      rw [dictateFrom, sendFrom, Dictation.carryOut_andThen]
      have sent :=
        session.sendStream_resume (UInt64.ofNat index) progress stream
      generalize (session.dictateStream (UInt64.ofNat index)
        progress).carryOut stream = written at sent ⊢
      obtain ⟨stop | later, after⟩ := written
      · dsimp only at sent ⊢
        generalize (session.resume progress stream).sendStream
          (UInt64.ofNat index) = outcome at sent ⊢
        obtain ⟨result, final⟩ := outcome
        obtain ⟨rfl, rfl⟩ := sent
        exact ⟨rfl, rfl⟩
      · dsimp only at sent ⊢
        obtain ⟨length, sent⟩ := sent
        rw [sent]
        exact hypothesis (index + 1) later after

/-- A run carries out the dictation of the session, and then waits for the
acknowledgment and closes. -/
theorem run_eq (session : Session Source) :
    session.run =
      match session.dictation.carryOut session.stream with
      | (.error stop, after) => (.error (stop.map .transmit), after)
      | (.ok progress, after) => (session.resume progress after).conclude := by
  have sent := session.sendFrom_resume session.plan.size 0 session.progress
    session.stream
  have unchanged :
      session.resume session.progress session.stream = session := rfl
  rw [unchanged] at sent
  unfold run dictation
  rw [Dictation.carryOut_andThen]
  generalize (session.dictateFrom session.plan.size 0
    session.progress).carryOut session.stream = written at sent ⊢
  obtain ⟨stop | progress, middle⟩ := written
  · dsimp only at sent ⊢
    generalize sendFrom session.plan.size 0 session = outcome at sent ⊢
    obtain ⟨result, final⟩ := outcome
    obtain ⟨rfl, rfl⟩ := sent
    rfl
  · dsimp only at sent ⊢
    rw [sent, Dictation.carryOut_andThen, Dictation.carryOut_text]
    have announced := session.sendHeader_resume .hangup progress middle
    unfold hangup
    generalize middle.writeAll Header.hangup.encode = written at announced ⊢
    obtain ⟨stop | ⟨⟩, after⟩ := written
    all_goals
      dsimp only at announced ⊢
      rw [announced]
      rfl

end Session
end StreamLoad

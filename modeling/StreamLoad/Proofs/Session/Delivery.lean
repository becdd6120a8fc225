import StreamLoad.Proofs.Session.Layout

/-!
# What a session delivers

A run sends the transcript of its session from the beginning and up to its end,
unless an attempt is fatal or the source runs dry. A fatal attempt is the last
thing that happens on the stream; the run fails by its error.
-/

namespace StreamLoad
namespace Session

variable {Source : Type}

/-- A session that has been started, as it was told to. -/
structure StartedWith
    (session : Session Source)
    (stream : Stream)
    (idPrefix : UInt64)
    (plan : Plan)
    (source : Source)
    (options : SessionOptions) : Prop where
  stream : session.stream = stream
  idPrefix : session.idPrefix = idPrefix
  plan : session.plan = plan
  source : session.source = source
  pageSize : PageSize.ofBytes options.pageSize = .ok session.pageSize
  ackTimeout : session.ackTimeout = options.ackTimeout
  streamsSent : session.streamsSent = 0
  bytesSent : session.bytesSent = 0

theorem startedWith_of_start
    {stream : Stream}
    {idPrefix : UInt64}
    {plan : Plan}
    {source : Source}
    {options : SessionOptions}
    {session : Session Source}
    (started : start stream idPrefix plan source options = .ok session) :
    session.StartedWith stream idPrefix plan source options := by
  unfold start at started
  split at started
  next => cases started
  next pageSize found =>
    cases started
    exact ⟨rfl, rfl, rfl, rfl, found, rfl, rfl, rfl⟩

/-- A session is started when a page of its size can be held. -/
theorem exists_start
    {options : SessionOptions}
    {pageSize : PageSize}
    (stream : Stream)
    (idPrefix : UInt64)
    (plan : Plan)
    (source : Source)
    (found : PageSize.ofBytes options.pageSize = .ok pageSize) :
    ∃ session, start stream idPrefix plan source options = .ok session := by
  unfold start
  rw [found]
  exact ⟨_, rfl⟩

/-- Waiting for the acknowledgment only waits on the stream. -/
theorem stream_readAck (session : Session Source) :
    session.readAck.2.stream =
      (session.stream.awaitByte session.ackTimeout).2 := by
  unfold readAck
  rcases session.stream.awaitByte session.ackTimeout with ⟨arrival, stream⟩
  cases arrival with
  | byte value => rfl
  | closed => rfl
  | failed error => by_cases kind : error.kind = .unexpectedEof <;> simp [kind]
  | expired => cases session.ackTimeout <;> rfl
  | never => rfl

/-- How a session stops that waits for its acknowledgment: the other side
closes, the read fails, the time is up, or the wait never ends. -/
inductive AckStop : Stop SessionError -> Prop
  | closed : AckStop (.failed .ackClosed)
  | read (cause : TransportError) : AckStop (.failed (.ackRead cause))
  | expired (limit : Duration) : AckStop (.failed (.ackTimeout limit))
  | endless : AckStop (.halted .endless)

theorem ackStop_of_readAck
    {session : Session Source}
    {stop : Stop SessionError}
    (stopped : session.readAck.1 = .error stop) : AckStop stop := by
  unfold readAck at stopped
  split at stopped
  next => cases stopped
  next =>
    cases stopped
    exact .closed
  next cause stream failed =>
    split at stopped
    all_goals cases stopped
    · exact .closed
    · exact .read cause
  next =>
    split at stopped
    next limit _ =>
      cases stopped
      exact .expired limit
    next =>
      cases stopped
      exact .endless
  next =>
    cases stopped
    exact .endless

@[simp] theorem sent_conclude (session : Session Source) :
    session.conclude.2.sent = session.stream.sent := by
  have waited : session.readAck.2.stream.sent = session.stream.sent := by
    rw [stream_readAck]
    rfl
  unfold conclude
  rcases acknowledged : session.readAck with ⟨stop | value, after⟩
  all_goals
    rw [acknowledged] at waited
    exact waited

theorem ackStop_of_conclude
    {session : Session Source}
    {stop : Stop SessionError}
    (stopped : session.conclude.1 = .error stop) : AckStop stop := by
  unfold conclude at stopped
  rcases acknowledged : session.readAck with ⟨waiting | value, after⟩
  all_goals
    rw [acknowledged] at stopped
    cases stopped
  exact ackStop_of_readAck (congrArg Prod.fst acknowledged)

/-- A session that finds a byte waiting takes it as the acknowledgment. -/
theorem conclude_of_byte
    {session : Session Source}
    {value : UInt8}
    {rest : List ReadItem}
    (waits : session.stream.incoming = .byte value :: rest) :
    ∃ summary, session.conclude.1 = .ok summary := by
  unfold conclude readAck Stream.awaitByte
  rw [waits]
  exact ⟨_, rfl⟩

variable [WordSource Source]

/-- A stream whose body cannot be written fails by the error of the write. -/
theorem sendStream_of_failed
    {session : Session Source}
    {index : UInt64}
    {header : Header}
    {opened broken : Stream}
    {later : Source}
    {error : TransportError}
    (found : session.streamHeader index = .ok header)
    (taken : session.stream.writeAll header.encode = (.ok (), opened))
    (failed :
      Payload.send session.pageSize header.length session.source opened =
        (.error (.failed error), later, broken)) :
    session.sendStream index =
      (.error (.failed (.transmit error)),
        { session with source := later, stream := broken }) := by
  unfold sendStream sendHeader sendBody
  rw [found]
  dsimp only
  rw [taken]
  dsimp only
  rw [failed]
  rfl

/-- A run ends with its first stream when that one cannot be sent. -/
theorem run_of_failed
    {session after : Session Source}
    {stop : Stop SessionError}
    (planned : 0 < session.plan.size)
    (failed : session.sendStream 0 = (.error stop, after)) :
    session.run = (.error stop, after.stream) := by
  obtain ⟨count, size⟩ := Nat.exists_eq_add_one.mpr planned
  unfold run
  rw [size, sendFrom, show UInt64.ofNat 0 = 0 from rfl, failed]

/-- Why the dictation of a session halts: at a letter that is never drawn, or
because an id or the sum of the lengths needs more than 64 bits. -/
def HaltsBy (session : Session Source) (halt : Halt) : Prop :=
  (halt = .endless ∧ ¬session.plan.YieldedBy session.source) ∨
    2 ^ 64 < session.idPrefix.toNat + session.plan.size ∨
    2 ^ 64 ≤ session.bytesSent.toNat + session.plan.letterCount

/-- The dictation of a session is the transcript, or halts in front of the end
of it. -/
theorem dictation_cases
    {session : Session Source}
    (small : session.plan.size ≤ 2 ^ 64) :
    (∃ progress,
      session.dictation.ending = .ok progress ∧
        session.dictation.bytes =
          session.plan.transcript session.idPrefix session.source ∧
        session.plan.YieldedBy session.source) ∨
    (∃ halt,
      session.dictation.ending = .error halt ∧
        session.dictation.bytes <+:
          session.plan.transcript session.idPrefix session.source ∧
        session.HaltsBy halt) := by
  have sameSource : session.progress.source = session.source := rfl
  unfold HaltsBy Plan.YieldedBy dictation
  cases streamsDictated_plan small with
  | done later body ending drawn counted summed whole =>
      obtain ⟨bytes, finalEnding⟩ := Dictation.andThen_of_ok ending
        fun progress => (Dictation.text Header.hangup.encode).andThen
          fun _ => .silent (.ok progress)
      rw [sameSource] at drawn
      refine .inl ⟨later, finalEnding, ?_, ?_⟩
      · rw [bytes]
        exact whole.symm
      · exact Option.isSome_of_mem drawn
  | halted halt ending begun cause =>
      obtain ⟨bytes, finalEnding⟩ := Dictation.andThen_of_error ending
        fun progress => (Dictation.text Header.hangup.encode).andThen
          fun _ => .silent (.ok progress)
      refine .inr ⟨halt, finalEnding, ?_, ?_⟩
      · rw [bytes]
        exact begun
      · rw [sameSource] at cause
        rcases cause with ⟨rfl, endless⟩ | idBound | sumBound
        · refine .inl ⟨rfl, ?_⟩
          rw [Plan.letterCount, endless]
          exact Bool.false_ne_true
        · exact .inr (.inl idBound)
        · exact .inr (.inr sumBound)

/-- How a run ends: the transcript is written whole and the session waits for
the acknowledgment, the dictation halts, a fatal attempt cuts the transcript
off, or attempts are interrupted for ever. -/
inductive Conducted (session : Session Source) : Prop
  | whole
      (progress : Progress Source)
      (after : Stream)
      (yielded : session.plan.YieldedBy session.source)
      (writing : session.stream.Writing
        (session.plan.transcript session.idPrefix session.source)
        (.ok ()) after)
      (result : session.run = (session.resume progress after).conclude)
  | halted
      (halt : Halt)
      (bytes : List UInt8)
      (after : Stream)
      (begun : bytes <+:
        session.plan.transcript session.idPrefix session.source)
      (cause : session.HaltsBy halt)
      (writing : session.stream.Writing bytes (.ok ()) after)
      (result : session.run = (.error (.halted halt), after))
  | cut
      (bytes : List UInt8)
      (error : TransportError)
      (after : Stream)
      (begun : bytes <+:
        session.plan.transcript session.idPrefix session.source)
      (writing : session.stream.Writing bytes (.error (.failed error)) after)
      (result : session.run = (.error (.failed (.transmit error)), after))
  | interrupted
      (bytes : List UInt8)
      (after : Stream)
      (begun : bytes <+:
        session.plan.transcript session.idPrefix session.source)
      (unsettled : ¬session.stream.script.Settles)
      (writing : session.stream.Writing bytes
        (.error (.halted .endless)) after)
      (result : session.run = (.error (.halted .endless), after))

theorem run_conducted
    {session : Session Source}
    (small : session.plan.size ≤ 2 ^ 64) : session.Conducted := by
  have ran := session.run_eq
  have dictated := dictation_cases small
  have begun : session.dictation.bytes <+:
      session.plan.transcript session.idPrefix session.source := by
    rcases dictated with ⟨_, _, bytes, _⟩ | ⟨_, _, begun, _⟩
    · exact bytes ▸ List.prefix_rfl
    · exact begun
  rcases session.dictation.carryOut_cases session.stream with
    ⟨after, writing, carried⟩ | ⟨stop, after, writing, carried⟩
  all_goals rw [carried] at ran
  · rcases dictated with ⟨progress, ending, bytes, yielded⟩ |
      ⟨halt, ending, _, cause⟩
    all_goals rw [ending] at ran
    · exact .whole progress after yielded (bytes ▸ writing) ran
    · exact .halted halt _ after begun cause writing ran
  · cases stop with
    | failed error => exact .cut _ error after begun writing ran
    | halted halt =>
        have unsettled : ¬session.stream.script.Settles := by
          cases writing with
          | interrupted _ _ _ unsettled => exact unsettled
        obtain rfl : halt = .endless := by
          cases writing with
          | interrupted => rfl
        exact .interrupted _ after begun unsettled writing ran

/-- Whatever happens, a run sends a beginning of the transcript. -/
theorem exists_accepted_run
    {session : Session Source}
    (small : session.plan.size ≤ 2 ^ 64) :
    ∃ accepted,
      session.run.2.sent = session.stream.sent ++ accepted ∧
        accepted <+:
          session.plan.transcript session.idPrefix session.source := by
  cases run_conducted small with
  | whole progress after yielded writing result =>
      rw [result, sent_conclude]
      exact writing.exists_accepted
  | halted halt bytes after begun cause writing result =>
      obtain ⟨accepted, sent, part⟩ := writing.exists_accepted
      exact ⟨accepted, result ▸ sent, part.trans begun⟩
  | cut bytes error after begun writing result =>
      obtain ⟨accepted, sent, part⟩ := writing.exists_accepted
      exact ⟨accepted, result ▸ sent, part.trans begun⟩
  | interrupted bytes after begun unsettled writing result =>
      obtain ⟨accepted, sent, part⟩ := writing.exists_accepted
      exact ⟨accepted, result ▸ sent, part.trans begun⟩

/-- With room for its ids and its sum, letters without end and a stream that
takes everything, a session comes to wait for the acknowledgment. -/
theorem run_of_takesAll
    {session : Session Source}
    (ids : session.idPrefix.toNat + session.plan.size ≤ 2 ^ 64)
    (total : session.bytesSent.toNat + session.plan.letterCount < 2 ^ 64)
    (yielded : session.plan.YieldedBy session.source)
    (takesAll : session.stream.script.TakesAll) :
    ∃ progress after,
      session.run = (session.resume progress after).conclude ∧
        session.stream.WroteOnly after := by
  have small : session.plan.size ≤ 2 ^ 64 :=
    Nat.le_trans (Nat.le_add_left _ _) ids
  cases run_conducted small with
  | whole progress after _ writing result =>
      cases writing with
      | whole wrote calm sent => exact ⟨progress, after, result, wrote⟩
  | halted halt bytes after begun cause writing result =>
      rcases cause with ⟨_, broken⟩ | idBound | sumBound
      · exact absurd yielded broken
      · exact absurd ids (Nat.not_le.mpr idBound)
      · exact absurd total (Nat.not_lt.mpr sumBound)
  | cut bytes error after begun writing result =>
      obtain ⟨ended, _⟩ := writing.whole_of_takesAll takesAll
      cases ended
  | interrupted bytes after begun unsettled writing result =>
      exact absurd takesAll.settles unsettled

/-- A run fails by the error of the first fatal attempt. No attempt follows,
and nothing is read or closed. -/
structure CutOffBy
    (session : Session Source)
    (error : TransportError) : Prop where
  result : session.run.1 = .error (.failed (.transmit error))
  fatal : ∃ last,
    session.stream.attempts ≤ last ∧
      session.stream.CalmUntil last ∧
      session.stream.script.fatalAt last = some error ∧
      session.run.2.attempts = last + 1
  unread : session.run.2.readCount = session.stream.readCount
  unclosed : session.run.2.closeCount = session.stream.closeCount

/-- A run delivers some bytes, a beginning of the transcript. When the words of
the source spell all letters of the plan, the transcript is their text laid out,
and it is delivered whole exactly when no write makes the run fail. A run that
fails by a write is cut off in front of the end. One that does not fail so and
delivers too little waits for ever, for its source runs dry. -/
structure Delivers
    (session : Session Source)
    (accepted : List UInt8) : Prop where
  sent : session.run.2.sent = session.stream.sent ++ accepted
  begun : accepted <+: session.plan.transcript session.idPrefix session.source
  whole : ∀ text, session.plan.SpelledAs session.source text ->
    session.plan.transcript session.idPrefix session.source =
        session.plan.layout session.idPrefix text ∧
      (accepted = session.plan.layout session.idPrefix text ↔
        ∀ error, session.run.1 ≠ .error (.failed (.transmit error)))
  cut : ∀ error, session.run.1 = .error (.failed (.transmit error)) ->
    accepted ≠ session.plan.transcript session.idPrefix session.source ∧
      session.CutOffBy error
  waiting :
    accepted ≠ session.plan.transcript session.idPrefix session.source ->
      (∀ error, session.run.1 ≠ .error (.failed (.transmit error))) ->
      session.run.1 = .error (.halted .endless) ∧
        WordSource.RunsDry session.source

/-- A text behind which something is missing is not the whole. -/
theorem ne_of_proper
    {accepted missing bytes transcript : List UInt8}
    (split : bytes = accepted ++ missing)
    (proper : missing ≠ [])
    (begun : bytes <+: transcript) : accepted ≠ transcript := by
  rintro rfl
  have bound := begun.length_le
  have positive := List.length_pos_iff.mpr proper
  rw [split, List.length_append] at bound
  omega

/-- What is delivered against the transcript is delivered against the text laid
out. -/
theorem whole_of_iff
    {session : Session Source}
    {accepted text : List UInt8}
    (transmits :
      accepted = session.plan.transcript session.idPrefix session.source ↔
        ∀ error, session.run.1 ≠ .error (.failed (.transmit error)))
    (spelled : session.plan.SpelledAs session.source text) :
    session.plan.transcript session.idPrefix session.source =
        session.plan.layout session.idPrefix text ∧
      (accepted = session.plan.layout session.idPrefix text ↔
        ∀ error, session.run.1 ≠ .error (.failed (.transmit error))) := by
  have same := Plan.transcript_eq_layout spelled session.idPrefix
  rw [same] at transmits
  exact ⟨same, transmits⟩

theorem delivers_of_whole
    {session : Session Source}
    {progress : Progress Source}
    {after : Stream}
    (writing : session.stream.Writing
      (session.plan.transcript session.idPrefix session.source)
      (.ok ()) after)
    (result : session.run = (session.resume progress after).conclude) :
    session.Delivers
      (session.plan.transcript session.idPrefix session.source) := by
  have returned :
      ∀ error, session.run.1 ≠ .error (.failed (.transmit error)) := by
    intro error failed
    rw [result] at failed
    cases ackStop_of_conclude failed
  cases writing with
  | whole wrote calm sent =>
      refine ⟨?_, List.prefix_rfl, ?_, ?_, ?_⟩
      · rw [result, sent_conclude]
        exact sent
      · intro text spelled
        exact whole_of_iff (iff_of_true rfl returned) spelled
      · intro error failed
        exact absurd failed (returned error)
      · intro partly
        exact absurd rfl partly

theorem delivers_of_endless
    {session : Session Source}
    {bytes : List UInt8}
    {after : Stream}
    (begun : bytes <+:
      session.plan.transcript session.idPrefix session.source)
    (broken : ¬session.plan.YieldedBy session.source)
    (writing : session.stream.Writing bytes (.ok ()) after)
    (result : session.run = (.error (.halted .endless), after)) :
    session.Delivers bytes := by
  cases writing with
  | whole wrote calm sent =>
      refine ⟨?_, begun, ?_, ?_, ?_⟩
      · rw [result]
        exact sent
      · intro text spelled
        exact absurd (Plan.yieldedBy_iff.mpr ⟨text, spelled⟩) broken
      · intro error failed
        rw [result] at failed
        cases failed
      · intro _ _
        exact ⟨by rw [result], Plan.runsDry_of_not_yieldedBy broken⟩

theorem delivers_of_cut
    {session : Session Source}
    {bytes : List UInt8}
    {error : TransportError}
    {after : Stream}
    (begun : bytes <+:
      session.plan.transcript session.idPrefix session.source)
    (writing : session.stream.Writing bytes (.error (.failed error)) after)
    (result : session.run = (.error (.failed (.transmit error)), after)) :
    ∃ accepted, session.Delivers accepted := by
  have failed : session.run.1 = .error (.failed (.transmit error)) := by
    rw [result]
  cases writing with
  | @cut _ _ last accepted missing wrote started calm fatal ended sent split
      proper =>
      have isCut : session.CutOffBy error := by
        refine ⟨failed, ⟨last, started, calm, fatal, ?_⟩, ?_, ?_⟩
        · rw [result]
          exact ended
        · rw [result]
          exact wrote.readCount
        · rw [result]
          exact wrote.closeCount
      have partly := ne_of_proper split proper begun
      refine ⟨accepted, ?_, ?_, ?_, ?_, ?_⟩
      · rw [result]
        exact sent
      · exact (split ▸ List.prefix_append accepted missing).trans begun
      · intro text spelled
        refine whole_of_iff (iff_of_false partly ?_) spelled
        intro returned
        exact returned error failed
      · intro other alike
        rw [failed] at alike
        cases alike
        exact ⟨partly, isCut⟩
      · intro _ returned
        exact absurd failed (returned error)

/-- A run delivers the transcript from its beginning, all of it unless an
attempt is fatal, and nothing happens on the stream behind a fatal attempt. -/
theorem run_delivers_transcript
    {session : Session Source}
    (ids : session.idPrefix.toNat + session.plan.size ≤ 2 ^ 64)
    (total : session.bytesSent.toNat + session.plan.letterCount < 2 ^ 64)
    (settles : session.stream.script.Settles) :
    ∃ accepted, session.Delivers accepted := by
  have small : session.plan.size ≤ 2 ^ 64 :=
    Nat.le_trans (Nat.le_add_left _ _) ids
  cases run_conducted small with
  | whole progress after yielded writing result =>
      exact ⟨_, delivers_of_whole writing result⟩
  | halted halt bytes after begun cause writing result =>
      rcases cause with ⟨rfl, broken⟩ | idBound | sumBound
      · exact ⟨bytes, delivers_of_endless begun broken writing result⟩
      · exact absurd ids (Nat.not_le.mpr idBound)
      · exact absurd total (Nat.not_lt.mpr sumBound)
  | cut bytes error after begun writing result =>
      exact delivers_of_cut begun writing result
  | interrupted bytes after begun unsettled writing result =>
      exact absurd settles unsettled

/-- A session whose ids end at the last one, in pages of two letters, over a
stream with some script. -/
def lastIds (script : Script) : Session KeyStream :=
  { stream := .start script [.byte 1]
    source := .seeded 7
    idPrefix := 0xfffffffffffffffe
    plan := ⟨[3, 2]⟩
    pageSize := { bytes := 2, positive := by decide, allocatable := by decide }
    ackTimeout := none
    streamsSent := 0
    bytesSent := 0 }

/-- Five bytes are taken at a time, and the second attempt is interrupted. -/
def sluggish : Script :=
  { Script.reliable with
    writeCap := some 5
    writeFaults := [(1, .ofKind .interrupted)] }

/-- The third attempt breaks, and so does every attempt behind it. -/
def brittle : Script :=
  { Script.reliable with failFrom := some (2, .ofKind .brokenPipe) }

/-- The letters of the plan, `kadhb`. -/
def lastLetters : List UInt8 := [107, 97, 100, 104, 98]

theorem spelledAs_lastIds (script : Script) :
    (lastIds script).plan.SpelledAs (lastIds script).source lastLetters := by
  have spelled : spelling (WordSource.words 5 (KeyStream.seeded 7)) =
      lastLetters := by decide +kernel
  exact ⟨⟨5, spelled⟩, rfl⟩

theorem not_runsDry_lastIds (script : Script) :
    ¬WordSource.RunsDry (lastIds script).source := by
  have spells : spelling (WordSource.words 1 (KeyStream.seeded 7)) ≠ [] := by
    decide +kernel
  intro dry
  exact spells (KeyStream.runsDry_seeded_iff.mp dry 1)

theorem exists_run_sluggish :
    ∃ summary, (lastIds sluggish).run.1 = .ok summary := by
  have yielded := Plan.yieldedBy_iff.mpr ⟨_, spelledAs_lastIds sluggish⟩
  have takesAll : sluggish.TakesAll :=
    Script.takesAll_of_interruptions (by decide) (by decide) rfl
  obtain ⟨progress, after, result, wrote⟩ :=
    run_of_takesAll (by decide) (by decide) yielded takesAll
  rw [result]
  exact conclude_of_byte wrote.incoming

/-- The brittle stream behind the first header. -/
def brittleOpen : Stream :=
  (lastIds brittle).stream.accept (Header.data 0xfffffffffffffffe 3).encode

/-- The brittle stream behind the first page. -/
def brittleHalfway : Stream :=
  brittleOpen.accept [107, 97]

/-- The second page is the one that breaks. -/
theorem exists_send_brittleOpen :
    ∃ later,
      Payload.send (lastIds brittle).pageSize 3 (lastIds brittle).source
          brittleOpen =
        (.error (.failed (.ofKind .brokenPipe)), later,
          brittleHalfway.refuse) := by
  have spelled : spelling (WordSource.words 3 (lastIds brittle).source) =
      [107, 97, 100] := by decide +kernel
  obtain ⟨later, drawn⟩ := exists_letters_of_spelling spelled
  obtain ⟨front, middle, back, first, second, split⟩ :=
    exists_of_letters_add (show letters (2 + 1) _ = _ from drawn)
  obtain ⟨rfl, rfl⟩ : [107, 97] = front ∧ [100] = back :=
    List.append_inj split (length_of_letters first).symm
  rw [← fillPage_eq_letters] at first second
  have firstPage : ((lastIds brittle).pageSize.pages 3).next? =
      some (2, (lastIds brittle).pageSize.pages 1) := by decide
  have secondPage : ((lastIds brittle).pageSize.pages 1).next? =
      some (1, (lastIds brittle).pageSize.pages 0) := by decide
  have taken : brittleOpen.writeAll [107, 97] = (.ok (), brittleHalfway) :=
    Stream.writeAll_of_accepted (by decide) rfl rfl
  have broken : brittleHalfway.writeAll [100] =
      (.error (.failed (.ofKind .brokenPipe)), brittleHalfway.refuse) :=
    Stream.writeAll_of_fault (by decide) rfl (by decide)
  refine ⟨later, ?_⟩
  unfold Payload.send
  rw [Payload.sendPages_of_some firstPage]
  simp only [show (2 : UInt64).toNat = 2 from rfl, first, taken]
  exact Payload.sendPages_of_failed secondPage second broken 1

theorem run_brittle :
    (lastIds brittle).run =
      (.error (.failed (.transmit (.ofKind .brokenPipe))),
        brittleHalfway.refuse) := by
  have header : (lastIds brittle).streamHeader 0 =
      .ok (.data 0xfffffffffffffffe 3) := rfl
  have taken : (lastIds brittle).stream.writeAll
      (Header.data 0xfffffffffffffffe 3).encode = (.ok (), brittleOpen) :=
    Stream.writeAll_of_accepted (by decide) rfl rfl
  obtain ⟨later, broken⟩ := exists_send_brittleOpen
  exact run_of_failed (by decide) (sendStream_of_failed header taken broken)

/-- The five letters are delivered over a stream that is sluggish, and the first
two of them over one that breaks behind the first page. -/
theorem lastIds_delivers_transcript :
    (∀ script,
      (lastIds script).idPrefix.toNat + (lastIds script).plan.size ≤ 2 ^ 64 ∧
        (lastIds script).bytesSent.toNat +
            (lastIds script).plan.letterCount < 2 ^ 64 ∧
        (lastIds script).plan.SpelledAs (lastIds script).source lastLetters ∧
        ¬WordSource.RunsDry (lastIds script).source) ∧
      sluggish.Settles ∧
      (∃ summary, (lastIds sluggish).run.1 = .ok summary) ∧
      (lastIds sluggish).Delivers
        ((Header.data 0xfffffffffffffffe 3).encode ++ [107, 97, 100] ++
          ((Header.data 0xffffffffffffffff 2).encode ++ [104, 98] ++
            Header.hangup.encode)) ∧
      brittle.Settles ∧
      (lastIds brittle).run.1 =
        .error (.failed (.transmit (.ofKind .brokenPipe))) ∧
      (lastIds brittle).Delivers
        ((Header.data 0xfffffffffffffffe 3).encode ++ [107, 97]) := by
  have ids : ∀ script,
      (lastIds script).idPrefix.toNat + (lastIds script).plan.size ≤
        2 ^ 64 := by
    intro script
    change (0xfffffffffffffffe : UInt64).toNat + 2 ≤ 2 ^ 64
    decide
  have total : ∀ script,
      (lastIds script).bytesSent.toNat +
        (lastIds script).plan.letterCount < 2 ^ 64 := by
    intro script
    change 0 + 5 < 2 ^ 64
    decide
  have settles : sluggish.Settles := by
    rintro start error ⟨⟩
  have breaks : brittle.Settles := by
    rintro start error ⟨⟩
    decide
  obtain ⟨summary, finished⟩ := exists_run_sluggish
  obtain ⟨whole, delivers⟩ :=
    run_delivers_transcript (ids sluggish) (total sluggish) settles
  have isWhole := (delivers.whole _ (spelledAs_lastIds sluggish)).2.mpr (by
    intro error failed
    rw [finished] at failed
    cases failed)
  obtain ⟨part, cut⟩ :=
    run_delivers_transcript (ids brittle) (total brittle) breaks
  have isPart : part =
      (Header.data 0xfffffffffffffffe 3).encode ++ [107, 97] := by
    have sent := cut.sent
    rw [run_brittle] at sent
    exact sent.symm
  subst isWhole isPart
  refine ⟨?_, settles, ⟨summary, finished⟩, delivers, breaks, ?_, cut⟩
  · intro script
    exact ⟨ids script, total script, spelledAs_lastIds script,
      not_runsDry_lastIds script⟩
  · rw [run_brittle]

end Session
end StreamLoad

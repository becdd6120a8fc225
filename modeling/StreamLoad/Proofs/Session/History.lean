import StreamLoad.Proofs.Run.Terminator
import StreamLoad.Proofs.Session.Framing

/-!
# What a failure leaves of a session

A session that fails in a run, a hangup or a shutdown is over: later requests
are refused and leave its stream alone. A session that fails to send a stream
stays open, and a request put to it then writes into the middle of a frame.
As long as nobody does that, and nobody asks behind a request that is never
answered, all that is written are the frames of the requests, of which only
the last may be broken off.
-/

namespace StreamLoad

namespace Reply

/-- The request has been answered. -/
def IsDone : Reply -> Prop
  | .done _ => True
  | .stopped _ => False
  | .refused => False

/-- The request has failed or is never answered. -/
def Breaks : Reply -> Prop
  | .done _ => False
  | .stopped (.failed _) => True
  | .stopped (.halted (.fault _)) => False
  | .stopped (.halted .endless) => True
  | .refused => False

theorem exists_eq_ok_of_isDone
    {Value : Type}
    {toAnswer : Value -> Answer}
    {outcome : Except (Stop SessionError) Value}
    (done : (ofExcept toAnswer outcome).IsDone) :
    ∃ result, outcome = .ok result := by
  cases outcome with
  | ok result => exact ⟨result, rfl⟩
  | error stop => exact done.elim

theorem not_breaks_of_isDone
    {reply : Reply}
    (done : reply.IsDone) : ¬reply.Breaks := by
  cases reply with
  | done answer => exact id
  | stopped stop => exact done.elim
  | refused => exact done.elim

theorem breaks_ofExcept_of_writing
    {Value : Type}
    (toAnswer : Value -> Answer)
    {before after : Stream}
    {bytes : List UInt8}
    {stop : Stop TransportError}
    (writing : before.Writing bytes (.error stop) after) :
    (ofExcept toAnswer (.error (stop.map .transmit))).Breaks := by
  cases writing with
  | cut => trivial
  | interrupted => trivial

end Reply

namespace Session

variable {Source : Type}

/-- The sessions have the same streams to send. -/
structure SameStreams (before after : Session Source) : Prop where
  idPrefix : after.idPrefix = before.idPrefix
  plan : after.plan = before.plan

theorem SameStreams.headersOf_eq
    {before after : Session Source}
    (same : before.SameStreams after) : after.headersOf = before.headersOf := by
  funext request
  have header : after.streamHeader = before.streamHeader := by
    funext index
    unfold streamHeader streamId
    rw [same.idPrefix, same.plan]
  cases request <;>
    simp only [headersOf, streamHeadersFrom, streamHeaders, header, same.plan]

/-- Of a session nothing has changed but its progress and its byte stream. -/
def Continues (before after : Session Source) : Prop :=
  after = before.resume after.progress after.stream

namespace Continues

theorem trans
    {before middle after : Session Source}
    (first : before.Continues middle)
    (second : middle.Continues after) : before.Continues after := by
  refine Eq.trans second ?_
  rw [first]
  rfl

theorem sameStreams
    {before after : Session Source}
    (continues : before.Continues after) : before.SameStreams after := by
  rw [continues]
  exact ⟨rfl, rfl⟩

theorem ackTimeout
    {before after : Session Source}
    (continues : before.Continues after) :
    after.ackTimeout = before.ackTimeout := by
  rw [continues]
  rfl

end Continues

theorem continues_sendHeader (session : Session Source) (header : Header) :
    session.Continues (session.sendHeader header).2 := by
  unfold sendHeader
  rcases session.stream.writeAll header.encode with ⟨stop | ⟨⟩, stream⟩
  · rfl
  · rfl

theorem continues_recordSent (session : Session Source) (length : UInt64) :
    session.Continues (session.recordSent length).2 := by
  unfold recordSent
  dsimp only
  cases checkedAdd session.bytesSent length with
  | error fault => rfl
  | ok total => rfl

theorem wroteFrames_shutdown (session : Session Source) :
    session.stream.WroteFrames session.shutdown.2
      (session.headersOf .shutdown)
      (∃ result, session.shutdown.1 = .ok result) := by
  obtain ⟨result, after, writing, sent, ended⟩ := session.writing_shutdown
  refine ((Stream.WroteFrames.of_writing_bare rfl writing).of_sent_eq
    sent).imp ?_
  rintro ⟨_, done⟩
  rw [ended] at done
  cases result with
  | ok => rfl
  | error stop => cases done

theorem wroteFrames_hangup (session : Session Source) :
    session.stream.WroteFrames session.hangup.2 (session.headersOf .hangup)
      (∃ summary, session.hangup.1 = .ok summary) := by
  have writing := session.stream.writing_writeAll Header.hangup.encode
  unfold hangup sendHeader
  rcases written : session.stream.writeAll Header.hangup.encode with
    ⟨stop | ⟨⟩, after⟩
  all_goals
    rw [written] at writing
    have wrote := Stream.WroteFrames.of_writing_bare rfl writing
    dsimp only
  · exact wrote.imp (by rintro ⟨_, ⟨⟩⟩)
  · exact (wrote.of_sent_eq (sent_conclude _)).imp fun _ => rfl

variable [WordSource Source]

theorem continues_sendBody (session : Session Source) (length : UInt64) :
    session.Continues (session.sendBody length).2 := by
  unfold sendBody
  rcases Payload.send session.pageSize length session.source session.stream
    with ⟨stop | written, source, stream⟩
  · rfl
  · rfl

/-- Sending a stream changes nothing of a session but its progress and its byte
stream. -/
theorem continues_sendStream (session : Session Source) (index : UInt64) :
    session.Continues (session.sendStream index).2 := by
  unfold sendStream
  cases session.streamHeader index with
  | error fault => rfl
  | ok header =>
      have announced := session.continues_sendHeader header
      dsimp only
      generalize session.sendHeader header = outcome at announced ⊢
      obtain ⟨stop | ⟨⟩, after⟩ := outcome
      · exact announced
      · have sent := after.continues_sendBody header.length
        dsimp only at announced ⊢
        generalize after.sendBody header.length = outcome at sent ⊢
        obtain ⟨stop | ⟨⟩, final⟩ := outcome
        · exact announced.trans sent
        · exact (announced.trans sent).trans
            (final.continues_recordSent header.length)

/-- Sending a stream writes a beginning of its frame, and the whole of it
unless it fails or never comes to an end. -/
theorem wroteFrames_sendStream
    (session : Session Source)
    (index : UInt64) :
    session.stream.WroteFrames (session.sendStream index).2.stream
      (session.headersOf (.sendStream index))
      (¬(Reply.ofExcept .sent (session.sendStream index).1).Breaks) := by
  have carried :=
    session.sendStream_resume index session.progress session.stream
  have unchanged :
      session.resume session.progress session.stream = session := rfl
  rw [unchanged] at carried
  obtain ⟨begun, whole⟩ :=
    session.framed_bytes_dictateStream index session.progress
  rcases (session.dictateStream index session.progress).carryOut_cases
    session.stream with
    ⟨after, writing, result⟩ | ⟨stop, after, writing, result⟩
  all_goals rw [result] at carried
  · cases ending : (session.dictateStream index session.progress).ending with
    | error halt =>
        rw [ending] at carried whole
        obtain ⟨failed, sent⟩ := carried
        rw [failed, sent]
        refine .of_writing writing begun fun goesOn => ⟨rfl, whole ?_⟩
        rintro ⟨⟩
        exact goesOn trivial
    | ok later =>
        rw [ending] at carried whole
        obtain ⟨length, carried⟩ := carried
        rw [carried]
        exact .of_writing writing begun fun _ => ⟨rfl, whole nofun⟩
  · obtain ⟨failed, sent⟩ := carried
    rw [failed, sent]
    refine .of_writing writing begun fun goesOn => ?_
    exact absurd (Reply.breaks_ofExcept_of_writing _ writing) goesOn

theorem wroteFrames_run (session : Session Source) :
    session.stream.WroteFrames session.run.2 (session.headersOf .run)
      (∃ summary, session.run.1 = .ok summary) := by
  have framed := session.framed_dictation
  rw [run_eq]
  rcases session.dictation.carryOut_cases session.stream with
    ⟨after, writing, result⟩ | ⟨stop, after, writing, result⟩
  all_goals rw [result]
  · cases ending : session.dictation.ending with
    | error halt =>
        exact .of_writing writing framed.begun (by rintro ⟨_, ⟨⟩⟩)
    | ok progress =>
        have wrote : session.stream.WroteFrames after
            (session.headersOf .run) True :=
          .of_writing writing framed.begun fun _ =>
            ⟨rfl, framed.whole progress ending⟩
        exact (wrote.of_sent_eq (sent_conclude _)).imp fun _ => trivial
  · exact .of_writing writing framed.begun (by rintro ⟨_, ⟨⟩⟩)

end Session

namespace Conversation

variable {Source : Type} [WordSource Source]

/-- A request is completed when it has been answered, and also when it leaves
the session open and has neither failed nor is never answered. -/
def Completed (outcome : Reply × Conversation Source) : Prop :=
  outcome.1.IsDone ∨
    ∃ next, outcome.2 = .active next ∧ ¬outcome.1.Breaks

/-- What a request writes is a beginning of its frames, and all of them if it
is completed. -/
theorem wroteFrames_askActive
    (session : Session Source)
    (request : Request) :
    session.stream.WroteFrames (askActive session request).2.stream
      (session.headersOf request) (Completed (askActive session request)) := by
  cases request with
  | streamId index =>
      have unchanged :
          (askActive session (.streamId index)).2 = .active session := by
        unfold askActive
        dsimp only
        cases session.streamId index <;> rfl
      rw [unchanged]
      exact ⟨[], (List.append_nil _).symm, Frame.WholeBy.nil.begunBy,
        fun _ => .nil⟩
  | sendStream index =>
      refine (session.wroteFrames_sendStream index).imp ?_
      rintro (done | ⟨_, _, unbroken⟩)
      · exact Reply.not_breaks_of_isDone done
      · exact unbroken
  | run =>
      refine session.wroteFrames_run.imp ?_
      rintro (done | ⟨_, ⟨⟩, _⟩)
      exact Reply.exists_eq_ok_of_isDone done
  | hangup =>
      refine session.wroteFrames_hangup.imp ?_
      rintro (done | ⟨_, ⟨⟩, _⟩)
      exact Reply.exists_eq_ok_of_isDone done
  | shutdown =>
      refine session.wroteFrames_shutdown.imp ?_
      rintro (done | ⟨_, ⟨⟩, _⟩)
      exact Reply.exists_eq_ok_of_isDone done

theorem headersOf_askActive
    {session next : Session Source}
    {request : Request}
    (active : (askActive session request).2 = .active next) :
    next.headersOf = session.headersOf := by
  cases request with
  | streamId index =>
      unfold askActive at active
      dsimp only at active
      cases found : session.streamId index
      all_goals
        rw [found] at active
        cases active
        rfl
  | sendStream index =>
      cases active
      exact (session.continues_sendStream index).sameStreams.headersOf_eq
  | run => cases active
  | hangup => cases active
  | shutdown => cases active

/-- An open session is asked nothing behind a request that has failed or is
never answered. -/
def Heeded
    (requests : List Request)
    (conversation : Conversation Source) : Prop :=
  ∀ index reply session,
    (askAll requests conversation)[index]? = some (reply, .active session) ->
      reply.Breaks -> index + 1 = requests.length

theorem Heeded.eq_nil
    {request : Request}
    {requests : List Request}
    {conversation : Conversation Source}
    {session : Session Source}
    (heeded : Heeded (request :: requests) conversation)
    (active : (conversation.ask request).2 = .active session)
    (breaks : (conversation.ask request).1.Breaks) : requests = [] := by
  have last := heeded 0 _ session (congrArg some (Prod.ext rfl active)) breaks
  rw [List.length_cons] at last
  exact List.length_eq_zero_iff.mp (by omega)

theorem Heeded.tail
    {request : Request}
    {requests : List Request}
    {conversation : Conversation Source}
    (heeded : Heeded (request :: requests) conversation) :
    Heeded requests (conversation.ask request).2 := by
  intro index reply session found breaks
  have last := heeded (index + 1) reply session found breaks
  rw [List.length_cons] at last
  omega

/-- A session that has ended refuses whatever is requested. -/
theorem eq_refused_of_ended
    {requests : List Request}
    {stream : Stream}
    {index : Nat}
    {entry : Reply × Conversation Source}
    (found : (askAll requests (.ended stream))[index]? = some entry) :
    entry = (.refused, .ended stream) := by
  induction requests generalizing index with
  | nil => cases found
  | cons request requests hypothesis =>
      cases index with
      | zero =>
          cases found
          rfl
      | succ index => exact hypothesis found

/-- A request that fails is the last that is not refused. -/
theorem refused_behind_failure
    {requests : List Request}
    {conversation : Conversation Source}
    (heeded : Heeded requests conversation)
    {earlier later : Nat}
    {error : SessionError}
    {broken : Conversation Source}
    {entry : Reply × Conversation Source}
    (order : earlier < later)
    (failed : (askAll requests conversation)[earlier]? =
      some (.stopped (.failed error), broken))
    (found : (askAll requests conversation)[later]? = some entry) :
    entry = (.refused, .ended broken.stream) := by
  induction requests generalizing conversation earlier later with
  | nil => cases failed
  | cons request requests hypothesis =>
      obtain ⟨later, rfl⟩ := Nat.exists_eq_add_one.mpr
        (Nat.lt_of_le_of_lt (Nat.zero_le earlier) order)
      cases earlier with
      | zero =>
          rw [askAll, List.getElem?_cons_zero, Option.some.injEq] at failed
          rw [askAll, List.getElem?_cons_succ, failed] at found
          cases broken with
          | active session =>
              obtain rfl := heeded.eq_nil (congrArg Prod.snd failed)
                (by rw [failed]; trivial)
              cases found
          | ended stream => exact eq_refused_of_ended found
      | succ earlier =>
          exact hypothesis heeded.tail (Nat.lt_of_succ_lt_succ order) failed
            found

/-- All that is written up to some request is a beginning of the frames of the
requests up to it, and all of them if this request is answered. -/
theorem wroteFrames_of_heeded
    {requests : List Request}
    {session : Session Source}
    (heeded : Heeded requests (.active session))
    {index : Nat}
    {reply : Reply}
    {after : Conversation Source}
    (found :
      (askAll requests (.active session))[index]? = some (reply, after)) :
    session.stream.WroteFrames after.stream
      ((requests.take (index + 1)).flatMap session.headersOf)
      reply.IsDone := by
  induction requests generalizing session index with
  | nil => cases found
  | cons request requests hypothesis =>
      have wrote := wroteFrames_askActive session request
      have same : ∀ next, (askActive session request).2 = .active next ->
          next.headersOf = session.headersOf := fun _ => headersOf_askActive
      have later := heeded.tail
      have last : ∀ next, (ask request (.active session)).2 = .active next ->
          (ask request (.active session)).1.Breaks -> requests = [] :=
        fun _ => heeded.eq_nil
      rw [List.take_succ_cons, List.flatMap_cons]
      rw [askAll] at found
      unfold ask at later last found
      dsimp only at later last found
      generalize askActive session request = outcome at *
      cases index with
      | zero =>
          cases found
          rw [List.take_zero, List.flatMap_nil, List.append_nil]
          exact wrote.imp .inl
      | succ index =>
          rw [List.getElem?_cons_succ] at found
          obtain ⟨first, next | stream⟩ := outcome
          · by_cases breaks : first.Breaks
            · obtain rfl := last next rfl breaks
              cases found
            · have wroteLater := hypothesis later found
              rw [same next rfl] at wroteLater
              exact wrote.append (.inr ⟨next, rfl, breaks⟩) wroteLater
          · cases eq_refused_of_ended found
            exact wrote.append_right _

end Conversation

namespace Session

variable {Source : Type} [WordSource Source]

/-- A session to which requests are put fails at most once: behind a failure
every request is refused and nothing happens on the stream. So all that is
written up to some request is a beginning of the frames of the requests up to
it, of which only the last may be broken off, and none if the request is
answered. -/
structure FailsOnce
    (session : Session Source)
    (requests : List Request) : Prop where
  ended : ∀ (earlier later : Nat) (error : SessionError) (reply : Reply)
      (broken after : Conversation Source),
    earlier < later ->
      (Conversation.askAll requests (.active session))[earlier]? =
          some (.stopped (.failed error), broken) ->
        (Conversation.askAll requests (.active session))[later]? =
            some (reply, after) ->
          reply = .refused ∧ after.stream = broken.stream
  framed : ∀ (index : Nat) (reply : Reply) (after : Conversation Source),
    (Conversation.askAll requests (.active session))[index]? =
        some (reply, after) ->
      session.stream.WroteFrames after.stream
        ((requests.take (index + 1)).flatMap session.headersOf)
        reply.IsDone

/-- A session that is left alone behind a failure fails at most once. -/
theorem failsOnce_of_heeded
    {session : Session Source}
    {requests : List Request}
    (heeded : Conversation.Heeded requests (.active session)) :
    session.FailsOnce requests := by
  refine ⟨?_, ?_⟩
  · intro earlier later error reply broken after order failed found
    cases Conversation.refused_behind_failure heeded order failed found
    exact ⟨rfl, rfl⟩
  · intro index reply after found
    exact Conversation.wroteFrames_of_heeded heeded found

/-- A session whose connection breaks behind the header of its one stream, for
a single attempt. -/
def torn : Session KeyStream :=
  { stream := .start
      { Script.reliable with
        writeFaults := [(1, .ofKind .brokenPipe)] } [.byte 1]
    source := .seeded 2
    idPrefix := 0
    plan := ⟨[1]⟩
    pageSize := .standard
    ackTimeout := none
    streamsSent := 0
    bytesSent := 0 }

/-- The session behind the header. -/
def tornOpen : Session KeyStream :=
  { torn with stream := torn.stream.accept (Header.data 0 1).encode }

/-- The session behind the attempt that breaks. -/
def tornApart : Session KeyStream :=
  { tornOpen with
    stream := tornOpen.stream.refuse
    source := WordSource.skip 1 (KeyStream.seeded 2) }

theorem sendStream_torn :
    torn.sendStream 0 =
      (.error (.failed (.transmit (.ofKind .brokenPipe))), tornApart) := by
  have header : torn.streamHeader 0 = .ok (.data 0 1) := rfl
  have taken : torn.stream.writeAll (Header.data 0 1).encode =
      (.ok (), tornOpen.stream) :=
    Stream.writeAll_of_accepted (by decide) rfl rfl
  obtain ⟨letter, accepted⟩ := Option.isSome_iff_exists.mp
    (show (letterOfWord (WordSource.nextWord torn.source).1).isSome by
      decide +kernel)
  have page : fillPage 1 torn.source =
      some ([letter], tornApart.source) := by
    rw [fillPage_eq_letters, letters, drawLetter,
      lowerCase.draw_of_accept accepted]
    rfl
  have step : (torn.pageSize.pages 1).next? =
      some (1, torn.pageSize.pages 0) := by decide
  have broken : tornOpen.stream.writeAll [letter] =
      (.error (.failed (.ofKind .brokenPipe)), tornOpen.stream.refuse) :=
    Stream.writeAll_of_fault (List.cons_ne_nil _ _) rfl (by decide)
  exact sendStream_of_failed header taken
    (Payload.sendPages_of_failed step page broken 0)

theorem run_torn :
    torn.run =
      (.error (.failed (.transmit (.ofKind .brokenPipe))),
        tornApart.stream) :=
  run_of_failed Nat.one_pos sendStream_torn

/-- A run of the session ends with the attempt that breaks. -/
theorem failsOnce_torn :
    Conversation.askAll [.streamId 0, .run, .hangup, .sendStream 0]
        (.active torn) =
      [(.done (.id 0), .active torn),
        (.stopped (.failed (.transmit (.ofKind .brokenPipe))),
          .ended tornApart.stream),
        (.refused, .ended tornApart.stream),
        (.refused, .ended tornApart.stream)] ∧
      Conversation.Heeded [.streamId 0, .run, .hangup, .sendStream 0]
        (.active torn) ∧
      torn.FailsOnce [.streamId 0, .run, .hangup, .sendStream 0] := by
  have history : Conversation.askAll
      [.streamId 0, .run, .hangup, .sendStream 0] (.active torn) =
        [(.done (.id 0), .active torn),
          (.stopped (.failed (.transmit (.ofKind .brokenPipe))),
            .ended tornApart.stream),
          (.refused, .ended tornApart.stream),
          (.refused, .ended tornApart.stream)] := by
    have ended : Conversation.askActive torn .run =
        (.stopped (.failed (.transmit (.ofKind .brokenPipe))),
          .ended tornApart.stream) := by
      unfold Conversation.askActive
      dsimp only
      rw [run_torn]
      rfl
    have asked : Conversation.askActive torn (.streamId 0) =
        (.done (.id 0), .active torn) := rfl
    simp only [Conversation.askAll, Conversation.ask, asked, ended]
  have heeded : Conversation.Heeded
      [.streamId 0, .run, .hangup, .sendStream 0] (.active torn) := by
    intro index reply session found breaks
    rw [history] at found
    rcases index with _ | _ | _ | _ | index
    · cases found
      exact breaks.elim
    all_goals cases found
  exact ⟨history, heeded, failsOnce_of_heeded heeded⟩

theorem hangup_tornApart :
    tornApart.hangup =
      (.ok { idPrefix := 0, streams := 0, bytes := 0 },
        { tornApart.stream.accept Header.hangup.encode with
          incoming := []
          readCount := 1
          closeCount := 1 }) := by
  have accepted : tornApart.stream.writeAll Header.hangup.encode =
      (.ok (), tornApart.stream.accept Header.hangup.encode) :=
    Stream.writeAll_of_accepted (by decide) rfl rfl
  unfold hangup sendHeader
  rw [accepted]
  rfl

/-- A hangup header cannot stand where a byte of the body has to be. -/
theorem not_begunBy_torn :
    ¬Frame.BegunBy ((Header.data 0 1).encode ++ Header.hangup.encode)
      [.data 0 1, .hangup] := by
  rintro ⟨_ | ⟨⟨first, body⟩, frames⟩, wellFormed, listed, begun⟩
  · exact absurd begun.length_le (by decide)
  · obtain ⟨rfl, others⟩ := List.cons_prefix_cons.mp listed
    obtain ⟨letter, rfl⟩ := List.length_eq_one_iff.mp
      (List.forall_mem_cons.mp wellFormed).1
    rw [Frame.encodeAll_cons, Frame.encode, List.append_assoc,
      List.prefix_append_right_inj] at begun
    -- Behind the body the hangup header would have to begin a second time.
    have later : Header.hangup.encode.tail <+: Frame.encodeAll frames :=
      (List.cons_prefix_cons.mp begun).2
    rcases frames with _ | ⟨⟨second, more⟩, frames⟩
    · exact absurd later.length_le (by decide)
    · obtain ⟨rfl, _⟩ := List.cons_prefix_cons.mp others
      have tag : (0 : UInt8) = 2 := (List.cons_prefix_cons.mp later).1
      exact absurd tag (by decide)

/-- Behind the attempt that breaks a hangup goes out all the same, where the
other side still waits for the body. -/
theorem torn_goes_on :
    Conversation.askAll [.sendStream 0, .hangup] (.active torn) =
      [(.stopped (.failed (.transmit (.ofKind .brokenPipe))),
          .active tornApart),
        (.done (.finished { idPrefix := 0, streams := 0, bytes := 0 }),
          .ended tornApart.hangup.2)] ∧
      tornApart.stream.attempts = 2 ∧ tornApart.hangup.2.attempts = 3 ∧
      tornApart.hangup.2.sent =
        (Header.data 0 1).encode ++ Header.hangup.encode ∧
      ¬Frame.BegunBy tornApart.hangup.2.sent
        ([Request.sendStream 0, .hangup].flatMap torn.headersOf) ∧
      ¬torn.FailsOnce [.sendStream 0, .hangup] := by
  have history : Conversation.askAll [.sendStream 0, .hangup]
      (.active torn) =
        [(.stopped (.failed (.transmit (.ofKind .brokenPipe))),
            .active tornApart),
          (.done (.finished { idPrefix := 0, streams := 0, bytes := 0 }),
            .ended tornApart.hangup.2)] := by
    have failed : Conversation.askActive torn (.sendStream 0) =
        (.stopped (.failed (.transmit (.ofKind .brokenPipe))),
          .active tornApart) := by
      unfold Conversation.askActive
      dsimp only
      rw [sendStream_torn]
      rfl
    have ended : Conversation.askActive tornApart .hangup =
        (.done (.finished { idPrefix := 0, streams := 0, bytes := 0 }),
          .ended tornApart.hangup.2) := by
      unfold Conversation.askActive
      dsimp only
      rw [hangup_tornApart]
      rfl
    simp only [Conversation.askAll, Conversation.ask, failed, ended]
  have attempts : tornApart.hangup.2.attempts = 3 := by
    rw [hangup_tornApart]
    rfl
  have sent : tornApart.hangup.2.sent =
      (Header.data 0 1).encode ++ Header.hangup.encode := by
    rw [hangup_tornApart]
    rfl
  refine ⟨history, rfl, attempts, sent, sent ▸ not_begunBy_torn, ?_⟩
  intro once
  have refused := once.ended 0 1
  rw [history] at refused
  cases (refused _ _ _ _ Nat.one_pos rfl rfl).1

end Session
end StreamLoad

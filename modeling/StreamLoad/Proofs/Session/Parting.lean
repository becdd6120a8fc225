import StreamLoad.Proofs.Session.Acknowledgment
import StreamLoad.Proofs.Session.History

/-!
# How a session ends

A session that is open has only been written to. The request that ends it
writes a header with nothing but zeros behind its tag. Only behind the whole
of a hangup does it wait, for one byte at most, and it closes the stream only
when that byte has come, or behind the whole of a shutdown. Later requests are
refused and leave the stream alone.
-/

namespace StreamLoad

/-- The bytes of a header without a body: a tag and zero in every field. -/
theorem Header.encode_control (command : Command) :
    (control command).encode = command.tag :: List.replicate 25 0 := by
  cases command <;> decide

namespace Stream

/-- Between two moments of a stream nothing has happened but writing, and what
was sent before is still there. -/
structure Wrote (before after : Stream) : Prop where
  wroteOnly : before.WroteOnly after
  sent : before.sent <+: after.sent

namespace Wrote

theorem refl (stream : Stream) : stream.Wrote stream :=
  ⟨.refl stream, List.prefix_rfl⟩

theorem trans
    {before middle after : Stream}
    (first : before.Wrote middle)
    (second : middle.Wrote after) : before.Wrote after :=
  ⟨first.wroteOnly.trans second.wroteOnly, first.sent.trans second.sent⟩

theorem of_writing
    {before after : Stream}
    {bytes : List UInt8}
    {result : Except (Stop TransportError) Unit}
    (writing : before.Writing bytes result after) : before.Wrote after := by
  obtain ⟨accepted, sent, _⟩ := writing.exists_accepted
  exact ⟨writing.wroteOnly, sent ▸ List.prefix_append _ _⟩

end Wrote

/-- Behind some writing the header of a command has been accepted, all 26
bytes of it, and nothing has been read or closed yet. -/
structure Signed
    (before after : Stream)
    (command : Command) : Prop where
  wroteOnly : before.WroteOnly after
  sent : ∃ earlier,
    after.sent =
      before.sent ++ earlier ++ command.tag :: List.replicate 25 0

theorem Signed.of_wrote
    {before middle after : Stream}
    {command : Command}
    (wrote : before.Wrote middle)
    (signed : middle.Signed after command) : before.Signed after command := by
  obtain ⟨written, split⟩ := wrote.sent
  obtain ⟨earlier, sent⟩ := signed.sent
  refine ⟨wrote.wroteOnly.trans signed.wroteOnly, written ++ earlier, ?_⟩
  rw [sent, ← split, List.append_assoc before.sent]

theorem Signed.of_writing
    {before after : Stream}
    {command : Command}
    (earlier : List UInt8)
    (writing :
      before.Writing (earlier ++ (Header.control command).encode) (.ok ())
        after) : before.Signed after command := by
  cases writing with
  | whole wrote calm sent =>
      refine ⟨wrote, earlier, ?_⟩
      rw [sent, Header.encode_control, List.append_assoc]

end Stream

/-- The request asks for an acknowledgment at its end. -/
def Request.HangsUp (request : Request) : Prop :=
  request = .run ∨ request = .hangup

namespace Session

variable {Source : Type}

/-- How a request ends a session, by what has happened on its stream since
some start: its header is not sent whole, the wait behind a hangup brings no
byte, or a byte comes, or a shutdown is sent. -/
inductive Parting (start : Stream) (limit : Option Duration) :
    Request -> Reply -> Stream -> Prop
  | broken
      {request : Request}
      {reply : Reply}
      {now : Stream}
      (wrote : start.Wrote now)
      (undone : ¬reply.IsDone) :
      Parting start limit request reply now
  | unanswered
      {request : Request}
      {stop : Stop SessionError}
      {arrival : Arrival}
      {signed now : Stream}
      (hangsUp : request.HangsUp)
      (signs : start.Signed signed .hangup)
      (waits : signed.awaitByte limit = (arrival, now))
      (silent : ∀ value, arrival ≠ .byte value) :
      Parting start limit request (.stopped stop) now
  | acknowledged
      {request : Request}
      {summary : SessionSummary}
      {value : UInt8}
      {signed waited : Stream}
      (hangsUp : request.HangsUp)
      (signs : start.Signed signed .hangup)
      (waits : signed.awaitByte limit = (.byte value, waited)) :
      Parting start limit request (.done (.finished summary)) waited.close.2
  | shutDown
      {signed : Stream}
      (signs : start.Signed signed .shutdown) :
      Parting start limit .shutdown (.done .shutDown) signed.close.2

theorem Parting.of_wrote
    {before start now : Stream}
    {limit : Option Duration}
    {request : Request}
    {reply : Reply}
    (wrote : before.Wrote start)
    (parting : Parting start limit request reply now) :
    Parting before limit request reply now := by
  cases parting with
  | broken later undone => exact .broken (wrote.trans later) undone
  | unanswered hangsUp signs waits silent =>
      exact .unanswered hangsUp (signs.of_wrote wrote) waits silent
  | acknowledged hangsUp signs waits =>
      exact .acknowledged hangsUp (signs.of_wrote wrote) waits
  | shutDown signs => exact .shutDown (signs.of_wrote wrote)

namespace Parting

variable {start now : Stream}
variable {limit : Option Duration}
variable {request : Request}
variable {reply : Reply}

/-- What is read is read behind the whole of a hangup. -/
theorem exists_signed_of_read
    (parting : Parting start limit request reply now)
    (read : now.readCount ≠ start.readCount) :
    ∃ signed arrival waited,
      start.Signed signed .hangup ∧
        signed.awaitByte limit = (arrival, waited) ∧
        (now = waited ∨ now = waited.close.2) := by
  cases parting with
  | broken wrote undone => exact absurd wrote.wroteOnly.readCount read
  | unanswered hangsUp signs waits silent =>
      exact ⟨_, _, _, signs, waits, .inl rfl⟩
  | acknowledged hangsUp signs waits =>
      exact ⟨_, _, _, signs, waits, .inr rfl⟩
  | shutDown signs => exact absurd signs.wroteOnly.readCount read

/-- No more than one byte is taken. -/
theorem exists_taken (parting : Parting start limit request reply now) :
    ∃ items,
      start.incoming = items ++ now.incoming ∧
        (items.filterMap ReadItem.byte?).length ≤ 1 := by
  have taken
      {signed waited : Stream}
      {arrival : Arrival}
      (signs : start.Signed signed .hangup)
      (waits : signed.awaitByte limit = (arrival, waited)) :
      ∃ items,
        start.incoming = items ++ waited.incoming ∧
          (items.filterMap ReadItem.byte?).length ≤ 1 := by
    have waited := signed.waited_awaitByte limit
    rw [waits] at waited
    obtain ⟨items, split, bytes⟩ := waited.taken
    refine ⟨items, ?_, ?_⟩
    · rw [← signs.wroteOnly.incoming, split]
    · rw [bytes]
      exact Option.length_toList_le
  cases parting with
  | broken wrote undone =>
      exact ⟨[], wrote.wroteOnly.incoming.symm, Nat.zero_le 1⟩
  | unanswered hangsUp signs waits silent => exact taken signs waits
  | acknowledged hangsUp signs waits =>
      obtain ⟨items, split, few⟩ := taken signs waits
      exact ⟨items, split, few⟩
  | shutDown signs =>
      exact ⟨[], signs.wroteOnly.incoming.symm, Nat.zero_le 1⟩

/-- A shutdown reads nothing. -/
theorem unread_of_shutdown
    (parting : Parting start limit .shutdown reply now) :
    now.readCount = start.readCount ∧ now.incoming = start.incoming := by
  have quiet : ¬Request.shutdown.HangsUp := by rintro (⟨⟨⟩⟩ | ⟨⟨⟩⟩)
  cases parting with
  | broken wrote undone =>
      exact ⟨wrote.wroteOnly.readCount, wrote.wroteOnly.incoming⟩
  | unanswered hangsUp signs waits silent => exact absurd hangsUp quiet
  | acknowledged hangsUp signs waits => exact absurd hangsUp quiet
  | shutDown signs =>
      exact ⟨signs.wroteOnly.readCount, signs.wroteOnly.incoming⟩

/-- The stream is closed once if the request is answered, and not otherwise. -/
theorem closeCount (parting : Parting start limit request reply now) :
    (reply.IsDone -> now.closeCount = start.closeCount + 1) ∧
      (¬reply.IsDone -> now.closeCount = start.closeCount) := by
  have unclosed
      {signed waited : Stream}
      {arrival : Arrival}
      (signs : start.Signed signed .hangup)
      (waits : signed.awaitByte limit = (arrival, waited)) :
      waited.closeCount = start.closeCount := by
    have waited := signed.waited_awaitByte limit
    rw [waits] at waited
    exact waited.closeCount.trans signs.wroteOnly.closeCount
  cases parting with
  | broken wrote undone =>
      exact ⟨fun done => absurd done undone,
        fun _ => wrote.wroteOnly.closeCount⟩
  | unanswered hangsUp signs waits silent =>
      exact ⟨False.elim, fun _ => unclosed signs waits⟩
  | acknowledged hangsUp signs waits =>
      exact ⟨fun _ => congrArg (· + 1) (unclosed signs waits),
        fun undone => absurd trivial undone⟩
  | shutDown signs =>
      exact ⟨fun _ => congrArg (· + 1) signs.wroteOnly.closeCount,
        fun undone => absurd trivial undone⟩

/-- A request that is answered closes behind the byte that acknowledges its
hangup, or behind its shutdown. -/
theorem closed_of_done
    (parting : Parting start limit request reply now)
    (done : reply.IsDone) :
    (request.HangsUp ∧ ∃ signed value waited,
      start.Signed signed .hangup ∧
        signed.awaitByte limit = (.byte value, waited) ∧
        now = waited.close.2) ∨
    (request = .shutdown ∧ ∃ signed,
      start.Signed signed .shutdown ∧ now = signed.close.2) := by
  cases parting with
  | broken wrote undone => exact absurd done undone
  | unanswered hangsUp signs waits silent => exact done.elim
  | acknowledged hangsUp signs waits =>
      exact .inl ⟨hangsUp, _, _, _, signs, waits, rfl⟩
  | shutDown signs => exact .inr ⟨rfl, _, signs, rfl⟩

end Parting

/-- A session that concludes behind a hangup ends by what its wait brings. -/
theorem Parting.of_conclude
    {start : Stream}
    {request : Request}
    (session : Session Source)
    (hangsUp : request.HangsUp)
    (signs : start.Signed session.stream .hangup) :
    Parting start session.ackTimeout request
      (.ofExcept .finished session.conclude.1) session.conclude.2 := by
  rw [conclude_eq]
  rcases waits : session.stream.awaitByte session.ackTimeout with
    ⟨arrival, now⟩
  dsimp only
  cases verdict : arrival.verdict session.ackTimeout with
  | error stop =>
      refine .unanswered hangsUp signs waits ?_
      intro value heard
      rw [Arrival.verdict_eq_ok_iff.mpr heard] at verdict
      cases verdict
  | ok value =>
      obtain rfl := Arrival.verdict_eq_ok_iff.mp verdict
      exact .acknowledged hangsUp signs waits

theorem parting_shutdown (session : Session Source) :
    Parting session.stream session.ackTimeout .shutdown
      (.ofExcept (fun _ => .shutDown) session.shutdown.1)
      session.shutdown.2 := by
  have writing := session.stream.writing_writeAll Header.shutdown.encode
  unfold shutdown sendHeader
  rcases written : session.stream.writeAll Header.shutdown.encode with
    ⟨stop | ⟨⟩, after⟩
  all_goals rw [written] at writing
  · exact .broken (.of_writing writing) id
  · exact .shutDown (.of_writing [] writing)

theorem parting_hangup (session : Session Source) :
    Parting session.stream session.ackTimeout .hangup
      (.ofExcept .finished session.hangup.1) session.hangup.2 := by
  have writing := session.stream.writing_writeAll Header.hangup.encode
  unfold hangup sendHeader
  rcases written : session.stream.writeAll Header.hangup.encode with
    ⟨stop | ⟨⟩, after⟩
  all_goals rw [written] at writing
  · exact .broken (.of_writing writing) id
  · exact .of_conclude { session with stream := after } (.inr rfl)
      (.of_writing [] writing)

variable [WordSource Source]

/-- A dictation that goes on to its end ends with the hangup. -/
theorem exists_bytes_dictation
    {session : Session Source}
    {progress : Progress Source}
    (ending : session.dictation.ending = .ok progress) :
    ∃ earlier,
      session.dictation.bytes = earlier ++ Header.hangup.encode := by
  unfold dictation at ending ⊢
  cases streams : (session.dictateFrom session.plan.size 0
      session.progress).ending with
  | error halt =>
      rw [(Dictation.andThen_of_error streams _).2] at ending
      cases ending
  | ok later =>
      rw [(Dictation.andThen_of_ok streams _).1]
      exact ⟨_, rfl⟩

theorem parting_run (session : Session Source) :
    Parting session.stream session.ackTimeout .run
      (.ofExcept .finished session.run.1) session.run.2 := by
  rw [run_eq]
  rcases session.dictation.carryOut_cases session.stream with
    ⟨after, writing, carried⟩ | ⟨stop, after, writing, carried⟩
  all_goals rw [carried]
  · cases ending : session.dictation.ending with
    | error halt => exact .broken (.of_writing writing) id
    | ok progress =>
        obtain ⟨earlier, bytes⟩ := exists_bytes_dictation ending
        rw [bytes] at writing
        exact .of_conclude (session.resume progress after) (.inl rfl)
          (.of_writing earlier writing)
  · exact .broken (.of_writing writing) id

theorem wrote_sendStream (session : Session Source) (index : UInt64) :
    session.stream.Wrote (session.sendStream index).2.stream := by
  have carried :=
    session.sendStream_resume index session.progress session.stream
  have unchanged :
      session.resume session.progress session.stream = session := rfl
  rw [unchanged] at carried
  rcases (session.dictateStream index session.progress).carryOut_cases
    session.stream with
    ⟨after, writing, result⟩ | ⟨stop, after, writing, result⟩
  all_goals rw [result] at carried
  · cases ending : (session.dictateStream index session.progress).ending with
    | error halt =>
        rw [ending] at carried
        rw [carried.2]
        exact .of_writing writing
    | ok later =>
        rw [ending] at carried
        obtain ⟨length, sent⟩ := carried
        rw [sent]
        exact .of_writing writing
  · rw [carried.2]
    exact .of_writing writing

end Session

namespace Conversation

variable {Source : Type} [WordSource Source]

/-- What is put to an open session goes on with what its first request has
left of it. -/
theorem askAll_active
    {session : Session Source}
    {request : Request}
    {next : Conversation Source}
    (leaves : (askActive session request).2 = next)
    (requests : List Request) :
    askAll (request :: requests) (.active session) =
      askActive session request :: askAll requests next := by
  rw [askAll, ask, leaves]

/-- A request that is not final leaves the session open, and only writes. -/
theorem exists_active_of_not_final
    {request : Request}
    (session : Session Source)
    (goesOn : ¬request.IsFinal) :
    ∃ next,
      (askActive session request).2 = .active next ∧
        session.Continues next ∧ session.stream.Wrote next.stream := by
  cases request with
  | streamId index =>
      unfold askActive
      dsimp only
      cases session.streamId index with
      | error fault => exact ⟨session, rfl, rfl, .refl _⟩
      | ok id => exact ⟨session, rfl, rfl, .refl _⟩
  | sendStream index =>
      exact ⟨_, rfl, session.continues_sendStream index,
        session.wrote_sendStream index⟩
  | run => exact absurd trivial goesOn
  | hangup => exact absurd trivial goesOn
  | shutdown => exact absurd trivial goesOn

/-- A final request ends the session. -/
theorem exists_ended_of_final
    {request : Request}
    (session : Session Source)
    (final : request.IsFinal) :
    ∃ now,
      (askActive session request).2 = .ended now ∧
        Session.Parting session.stream session.ackTimeout request
          (askActive session request).1 now := by
  cases request with
  | streamId index => exact final.elim
  | sendStream index => exact final.elim
  | run => exact ⟨_, rfl, session.parting_run⟩
  | hangup => exact ⟨_, rfl, session.parting_hangup⟩
  | shutdown => exact ⟨_, rfl, session.parting_shutdown⟩

/-- Behind the request that has ended a session every request is refused, and
the stream stays as it is. -/
theorem refused_behind_end
    {requests : List Request}
    {conversation : Conversation Source}
    {position later : Nat}
    {reply : Reply}
    {now : Stream}
    {entry : Reply × Conversation Source}
    (order : position < later)
    (ended : (askAll requests conversation)[position]? =
      some (reply, .ended now))
    (found : (askAll requests conversation)[later]? = some entry) :
    entry = (.refused, .ended now) := by
  induction requests generalizing conversation position later with
  | nil => cases ended
  | cons request requests hypothesis =>
      obtain ⟨later, rfl⟩ := Nat.exists_eq_add_one.mpr
        (Nat.lt_of_le_of_lt (Nat.zero_le position) order)
      rw [askAll] at ended found
      cases position with
      | zero =>
          rw [List.getElem?_cons_zero, Option.some.injEq] at ended
          rw [ended, List.getElem?_cons_succ] at found
          exact eq_refused_of_ended found
      | succ position =>
          exact hypothesis (Nat.lt_of_succ_lt_succ order) ended found

end Conversation

namespace Session

variable {Source : Type} [WordSource Source]

/-- The conversations of a session to which requests are put: before the first
request, and behind each. -/
def conversations
    (session : Session Source)
    (requests : List Request) : List (Conversation Source) :=
  .active session ::
    (Conversation.askAll requests (.active session)).map Prod.snd

/-- The request at some position finds a session open and ends it, with some
reply and some stream. -/
structure EndsAt
    (session : Session Source)
    (requests : List Request)
    (position : Nat)
    (opened : Session Source)
    (request : Request)
    (reply : Reply)
    (now : Stream) : Prop where
  asked : requests[position]? = some request
  final : request.IsFinal
  opened : (session.conversations requests)[position]? = some (.active opened)
  outcome : (Conversation.askAll requests (.active session))[position]? =
    some (reply, .ended now)

/-- What a history of requests has come to at some index: the session is still
open and nothing has happened but writing, or a request up to there has ended
it and later ones are refused. -/
inductive Stage
    (session : Session Source)
    (requests : List Request)
    (index : Nat) : Reply -> Conversation Source -> Prop
  | active
      {reply : Reply}
      {next : Session Source}
      (wrote : session.stream.Wrote next.stream)
      (goesOn : ∀ position request, position ≤ index ->
        requests[position]? = some request -> ¬request.IsFinal) :
      Stage session requests index reply (.active next)
  | ended
      {reply ending : Reply}
      {position : Nat}
      {opened : Session Source}
      {request : Request}
      {now : Stream}
      (earlier : position ≤ index)
      (ends : session.EndsAt requests position opened request ending now)
      (parting : Parting session.stream session.ackTimeout request ending now)
      (framed : opened.stream.WroteFrames now (session.headersOf request)
        ending.IsDone)
      (refused : position < index -> reply = .refused) :
      Stage session requests index reply (.ended now)

/-- A history goes on as it does from the session that its first request has
left open. -/
theorem Stage.cons
    {session next : Session Source}
    {request : Request}
    {requests : List Request}
    {index : Nat}
    {reply : Reply}
    {after : Conversation Source}
    (goesOn : ¬request.IsFinal)
    (active : (Conversation.askActive session request).2 = .active next)
    (continues : session.Continues next)
    (wrote : session.stream.Wrote next.stream)
    (stage : next.Stage requests index reply after) :
    session.Stage (request :: requests) (index + 1) reply after := by
  have headers : next.headersOf = session.headersOf :=
    Conversation.headersOf_askActive active
  have limit := continues.ackTimeout
  have asked := Conversation.askAll_active active requests
  cases stage with
  | active later none =>
      refine .active (wrote.trans later) ?_
      intro position other bound found
      cases position with
      | zero =>
          cases found
          exact goesOn
      | succ position =>
          exact none position other (Nat.le_of_succ_le_succ bound) found
  | ended earlier ends parting framed refused =>
      rw [limit] at parting
      rw [headers] at framed
      refine .ended (Nat.succ_le_succ earlier)
        ⟨ends.asked, ends.final, ?_, ?_⟩ (parting.of_wrote wrote) framed
        fun order => refused (Nat.lt_of_succ_lt_succ order)
      · rw [conversations, asked, List.map_cons, active,
          List.getElem?_cons_succ]
        exact ends.opened
      · rw [asked, List.getElem?_cons_succ]
        exact ends.outcome

/-- Every moment of a history is at one of the two stages. -/
theorem stage_of_history
    {session : Session Source}
    {requests : List Request}
    {index : Nat}
    {reply : Reply}
    {after : Conversation Source}
    (found : (Conversation.askAll requests (.active session))[index]? =
      some (reply, after)) : session.Stage requests index reply after := by
  induction requests generalizing session index with
  | nil => cases found
  | cons request requests hypothesis =>
      by_cases final : request.IsFinal
      · obtain ⟨now, ended, parting⟩ :=
          Conversation.exists_ended_of_final session final
        have framed := Conversation.wroteFrames_askActive session request
        rw [ended] at framed
        have asked := Conversation.askAll_active ended requests
        have ends : session.EndsAt (request :: requests) 0 session request
            (Conversation.askActive session request).1 now := by
          refine ⟨rfl, final, rfl, ?_⟩
          rw [asked, List.getElem?_cons_zero, ← ended]
        rw [asked] at found
        cases index with
        | zero =>
            have outcome := Option.some.inj found
            obtain rfl : after = .ended now := by
              rw [← ended, outcome]
            exact .ended (Nat.le_refl 0) ends parting (framed.imp .inl) nofun
        | succ index =>
            cases Conversation.eq_refused_of_ended found
            exact .ended (Nat.zero_le _) ends parting (framed.imp .inl)
              fun _ => rfl
      · obtain ⟨next, active, continues, wrote⟩ :=
          Conversation.exists_active_of_not_final session final
        have asked := Conversation.askAll_active active requests
        rw [asked] at found
        cases index with
        | zero =>
            have outcome := Option.some.inj found
            obtain rfl : after = .active next := by
              rw [← active, outcome]
            refine .active wrote ?_
            intro position other bound found
            obtain rfl := Nat.le_zero.mp bound
            cases found
            exact final
        | succ index =>
            exact (hypothesis found).cons final active continues wrote

/-- No request finds a session open behind the one that has ended it. -/
theorem EndsAt.not_lt
    {session opened second : Session Source}
    {requests : List Request}
    {position other : Nat}
    {request another : Request}
    {reply ending : Reply}
    {now later : Stream}
    (ends : session.EndsAt requests position opened request reply now)
    (endsToo : session.EndsAt requests other second another ending later) :
    ¬position < other := by
  intro order
  obtain ⟨other, rfl⟩ := Nat.exists_eq_add_one.mpr
    (Nat.lt_of_le_of_lt (Nat.zero_le position) order)
  have opened := endsToo.opened
  rw [conversations, List.getElem?_cons_succ, List.getElem?_map,
    Option.map_eq_some_iff] at opened
  obtain ⟨⟨before, conversation⟩, found, active⟩ := opened
  rcases Nat.lt_or_eq_of_le (Nat.le_of_lt_succ order) with earlier | rfl
  · cases Conversation.refused_behind_end earlier ends.outcome found
    cases active
  · rw [ends.outcome] at found
    cases found
    cases active

/-- No two requests end a session. -/
theorem EndsAt.unique
    {session opened second : Session Source}
    {requests : List Request}
    {position other : Nat}
    {request another : Request}
    {reply ending : Reply}
    {now later : Stream}
    (ends : session.EndsAt requests position opened request reply now)
    (endsToo : session.EndsAt requests other second another ending later) :
    position = other ∧ reply = ending ∧ now = later := by
  obtain rfl : position = other :=
    Nat.le_antisymm (Nat.le_of_not_lt (endsToo.not_lt ends))
      (Nat.le_of_not_lt (ends.not_lt endsToo))
  have outcome := ends.outcome
  rw [endsToo.outcome] at outcome
  cases outcome
  exact ⟨rfl, rfl, rfl⟩

/-- A request up to some index has ended the session and has been answered. -/
def PartedBy
    (session : Session Source)
    (requests : List Request)
    (index : Nat) : Prop :=
  ∃ position opened request reply now,
    position ≤ index ∧
      session.EndsAt requests position opened request reply now ∧
      reply.IsDone

/-- A session to which requests are put ends safely. Whatever is read is read
behind the whole of a hangup, one byte is taken at most, and a shutdown reads
nothing. The stream is closed once, when a request that ends the session is
answered, behind the byte that acknowledges a hangup or behind a shutdown. The
header of that request comes last, and later requests do nothing. -/
structure PartsSafely
    (session : Session Source)
    (requests : List Request) : Prop where
  heard : ∀ (index : Nat) (reply : Reply) (after : Conversation Source),
    (Conversation.askAll requests (.active session))[index]? =
        some (reply, after) ->
      after.stream.readCount ≠ session.stream.readCount ->
        ∃ signed arrival waited,
          session.stream.Signed signed .hangup ∧
            signed.awaitByte session.ackTimeout = (arrival, waited) ∧
            (after.stream = waited ∨ after.stream = waited.close.2)
  taken : ∀ (index : Nat) (reply : Reply) (after : Conversation Source),
    (Conversation.askAll requests (.active session))[index]? =
        some (reply, after) ->
      ∃ items,
        session.stream.incoming = items ++ after.stream.incoming ∧
          (items.filterMap ReadItem.byte?).length ≤ 1
  unread : ∀ (position : Nat) (opened : Session Source) (reply : Reply)
      (now : Stream),
    session.EndsAt requests position opened .shutdown reply now ->
      now.readCount = session.stream.readCount ∧
        now.incoming = session.stream.incoming
  closed : ∀ (index : Nat) (reply : Reply) (after : Conversation Source),
    (Conversation.askAll requests (.active session))[index]? =
        some (reply, after) ->
      (session.PartedBy requests index ->
          after.stream.closeCount = session.stream.closeCount + 1) ∧
        (¬session.PartedBy requests index ->
          after.stream.closeCount = session.stream.closeCount)
  done : ∀ (position : Nat) (opened : Session Source) (request : Request)
      (reply : Reply) (now : Stream),
    session.EndsAt requests position opened request reply now ->
      reply.IsDone ->
        (request.HangsUp ∧ ∃ signed value waited,
          session.stream.Signed signed .hangup ∧
            signed.awaitByte session.ackTimeout = (.byte value, waited) ∧
            now = waited.close.2) ∨
        (request = .shutdown ∧ ∃ signed,
          session.stream.Signed signed .shutdown ∧ now = signed.close.2)
  last : ∀ (position : Nat) (opened : Session Source) (request : Request)
      (reply : Reply) (now : Stream),
    session.EndsAt requests position opened request reply now ->
      opened.stream.WroteFrames now (session.headersOf request) reply.IsDone
  refused : ∀ (position : Nat) (opened : Session Source) (request : Request)
      (reply : Reply) (now : Stream) (later : Nat) (refusal : Reply)
      (after : Conversation Source),
    session.EndsAt requests position opened request reply now ->
      position < later ->
        (Conversation.askAll requests (.active session))[later]? =
            some (refusal, after) ->
          refusal = .refused ∧ after.stream = now

/-- The request that ends a session goes as its parting tells. -/
theorem EndsAt.parting
    {session opened : Session Source}
    {requests : List Request}
    {position : Nat}
    {request : Request}
    {reply : Reply}
    {now : Stream}
    (ends : session.EndsAt requests position opened request reply now) :
    Parting session.stream session.ackTimeout request reply now ∧
      opened.stream.WroteFrames now (session.headersOf request)
        reply.IsDone := by
  cases stage_of_history ends.outcome with
  | ended earlier endsToo parting framed refused =>
      obtain ⟨rfl, rfl, _⟩ := ends.unique endsToo
      have sameRequest := ends.asked.symm.trans endsToo.asked
      have sameSession := ends.opened.symm.trans endsToo.opened
      cases sameRequest
      cases sameSession
      exact ⟨parting, framed⟩

/-- Every session ends safely, whatever is requested of it and however its
stream takes it. -/
theorem partsSafely_of_requests
    (session : Session Source)
    (requests : List Request) : session.PartsSafely requests where
  heard := by
    intro index reply after found read
    cases stage_of_history found with
    | active wrote goesOn => exact absurd wrote.wroteOnly.readCount read
    | ended earlier ends parting framed refused =>
        exact parting.exists_signed_of_read read
  taken := by
    intro index reply after found
    cases stage_of_history found with
    | active wrote goesOn =>
        exact ⟨[], wrote.wroteOnly.incoming.symm, Nat.zero_le 1⟩
    | ended earlier ends parting framed refused =>
        exact parting.exists_taken
  unread := by
    intro position opened reply now ends
    exact ends.parting.1.unread_of_shutdown
  closed := by
    intro index reply after found
    cases stage_of_history found with
    | active wrote goesOn =>
        refine ⟨?_, fun _ => wrote.wroteOnly.closeCount⟩
        rintro ⟨position, opened, request, reply, now, bound, ends, _⟩
        exact absurd ends.final (goesOn position request bound ends.asked)
    | ended earlier ends parting framed refused =>
        obtain ⟨closes, stays⟩ := parting.closeCount
        refine ⟨?_, ?_⟩
        · rintro ⟨other, _, _, _, _, bound, endsToo, done⟩
          obtain ⟨_, rfl, _⟩ := ends.unique endsToo
          exact closes done
        · intro unparted
          refine stays fun done => unparted ?_
          exact ⟨_, _, _, _, _, earlier, ends, done⟩
  done := by
    intro position opened request reply now ends isDone
    exact ends.parting.1.closed_of_done isDone
  last := by
    intro position opened request reply now ends
    exact ends.parting.2
  refused := by
    intro position opened request reply now later refusal after ends order
      found
    cases Conversation.refused_behind_end order ends.outcome found
    exact ⟨rfl, rfl⟩

end Session
end StreamLoad

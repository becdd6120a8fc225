import StreamLoad.Proofs.Session.Parting
import StreamLoad.Proofs.Session.Undisturbed

/-!
# Writing without hearing

Nothing that a session writes depends on what comes back to it, on how closing
goes or on how long it waits. Two sessions that differ in nothing else, asked
the same, write the same and fail to write alike. They may differ in what they
make of a hangup that both have sent whole, and only there.
-/

namespace StreamLoad

namespace Payload

variable {Source : Type} [WordSource Source]

/-- Two bodies end with the same result and the same source, and leave streams
that are alike. -/
inductive EndAlike :
    Except (Stop TransportError) Nat × Source × Stream ->
      Except (Stop TransportError) Nat × Source × Stream -> Prop
  | intro
      {first second : Stream}
      (result : Except (Stop TransportError) Nat)
      (source : Source)
      (alike : first.WritesAlike second) :
      EndAlike (result, source, first) (result, source, second)

theorem endAlike_sendPages
    {first second : Stream}
    (pages : Pages)
    (written : Nat)
    (source : Source)
    (alike : first.WritesAlike second) :
    EndAlike (sendPages pages written source first)
      (sendPages pages written source second) := by
  fun_induction sendPages pages written source first generalizing second with
  | case1 pages written source first step =>
      rw [sendPages_of_none step]
      exact .intro _ _ alike
  | case2 pages written source first size rest step smaller endless =>
      rw [sendPages_of_some step, endless]
      exact .intro _ _ alike
  | case3 pages written source first size rest step smaller page later
      filled stop after failed =>
      have ends := Stream.endAlike_writeAll page alike
      rw [failed] at ends
      rw [sendPages_of_some step, filled]
      dsimp only
      generalize second.writeAll page = other at ends ⊢
      cases ends with
      | intro result alike => exact .intro _ _ alike
  | case4 pages written source first size rest step smaller page later
      filled after accepted hypothesis =>
      have ends := Stream.endAlike_writeAll page alike
      rw [accepted] at ends
      rw [sendPages_of_some step, filled]
      dsimp only
      generalize second.writeAll page = other at ends ⊢
      cases ends with
      | intro result alike => exact hypothesis alike

end Payload

namespace Session

variable {Source : Type}

/-- Two operations that keep a session open end with the same result, and leave
sessions that differ only in what comes back to them and how long they wait. -/
inductive GoOnAlike {Value : Type} (limit : Option Duration) :
    Except (Stop SessionError) Value × Session Source ->
      Except (Stop SessionError) Value × Session Source -> Prop
  | intro
      {session : Session Source}
      {stream : Stream}
      (result : Except (Stop SessionError) Value)
      (alike : session.stream.WritesAlike stream) :
      GoOnAlike limit (result, session) (result, session.facing stream limit)

variable {stream : Stream}

theorem goOnAlike_sendHeader
    (session : Session Source)
    (limit : Option Duration)
    (alike : session.stream.WritesAlike stream)
    (header : Header) :
    GoOnAlike limit (session.sendHeader header)
      ((session.facing stream limit).sendHeader header) := by
  have written := Stream.endAlike_writeAll header.encode alike
  unfold sendHeader
  rw [stream_facing]
  generalize session.stream.writeAll header.encode = outcome at written ⊢
  generalize stream.writeAll header.encode = other at written ⊢
  cases written with
  | intro result later =>
      cases result with
      | error stop => exact .intro _ later
      | ok => exact .intro _ later

theorem goOnAlike_recordSent
    (session : Session Source)
    (limit : Option Duration)
    (alike : session.stream.WritesAlike stream)
    (length : UInt64) :
    GoOnAlike limit (session.recordSent length)
      ((session.facing stream limit).recordSent length) := by
  unfold recordSent
  rw [bytesSent_facing]
  cases checkedAdd session.bytesSent length with
  | error fault => exact .intro _ alike
  | ok total => exact .intro _ alike

variable [WordSource Source]

theorem goOnAlike_sendBody
    (session : Session Source)
    (limit : Option Duration)
    (alike : session.stream.WritesAlike stream)
    (length : UInt64) :
    GoOnAlike limit (session.sendBody length)
      ((session.facing stream limit).sendBody length) := by
  have sent : Payload.EndAlike
      (Payload.send session.pageSize length session.source session.stream)
      (Payload.send session.pageSize length session.source stream) :=
    Payload.endAlike_sendPages _ _ _ alike
  unfold sendBody
  rw [source_facing, pageSize_facing, stream_facing]
  generalize Payload.send session.pageSize length session.source
    session.stream = outcome at sent ⊢
  generalize Payload.send session.pageSize length session.source stream =
    other at sent ⊢
  cases sent with
  | intro result source later =>
      cases result with
      | error stop => exact .intro _ later
      | ok written => exact .intro _ later

/-- A stream is sent alike, whatever comes back meanwhile. -/
theorem goOnAlike_sendStream
    (session : Session Source)
    (limit : Option Duration)
    (alike : session.stream.WritesAlike stream)
    (index : UInt64) :
    GoOnAlike limit (session.sendStream index)
      ((session.facing stream limit).sendStream index) := by
  unfold sendStream
  rw [streamHeader_facing]
  cases session.streamHeader index with
  | error fault => exact .intro _ alike
  | ok header =>
      have announced := session.goOnAlike_sendHeader limit alike header
      dsimp only
      generalize session.sendHeader header = outcome at announced ⊢
      generalize (session.facing stream limit).sendHeader header = other
        at announced ⊢
      cases announced with
      | @intro opened _ result alike =>
          cases result with
          | error stop => exact .intro _ alike
          | ok =>
              have sent := opened.goOnAlike_sendBody limit alike header.length
              dsimp only
              generalize opened.sendBody header.length = outcome at sent ⊢
              generalize (opened.facing _ limit).sendBody header.length =
                other at sent ⊢
              cases sent with
              | @intro final _ result alike =>
                  cases result with
                  | error stop => exact .intro _ alike
                  | ok =>
                      exact final.goOnAlike_recordSent limit alike
                        header.length

end Session

/-- The reply is one that the wait behind a hangup may give. -/
inductive Reply.Heard : Reply -> Prop
  | acknowledged (summary : SessionSummary) : Heard (.done (.finished summary))
  | unacknowledged
      {stop : Stop SessionError}
      (stops : Session.AckStop stop) : Heard (.stopped stop)

theorem Reply.Heard.of_conclude
    {Source : Type}
    (session : Session Source) :
    Heard (.ofExcept .finished session.conclude.1) := by
  cases concluded : session.conclude.1 with
  | ok summary => exact .acknowledged summary
  | error stop => exact .unacknowledged (Session.ackStop_of_conclude concluded)

/-- A failure to write is not heard but met. -/
theorem Reply.Heard.ne_transmit
    {reply : Reply}
    (heard : reply.Heard)
    (error : TransportError) :
    reply ≠ .stopped (.failed (.transmit error)) := by
  cases heard with
  | acknowledged summary => nofun
  | unacknowledged stops => cases stops <;> nofun

/-- A request is answered alike: it gets the same reply, or it hangs up and
what it gets is heard behind the hangup. -/
inductive Request.AnsweredAlike (request : Request) : Reply -> Reply -> Prop
  | same (reply : Reply) : AnsweredAlike request reply reply
  | heard
      {reply other : Reply}
      (hangsUp : request.HangsUp)
      (first : reply.Heard)
      (second : other.Heard) : AnsweredAlike request reply other

namespace Request.AnsweredAlike

variable {request : Request}
variable {reply other : Reply}

theorem eq_of_not_hangsUp
    (alike : request.AnsweredAlike reply other)
    (quiet : ¬request.HangsUp) : other = reply := by
  cases alike with
  | same => rfl
  | heard hangsUp heard heardToo => exact absurd hangsUp quiet

theorem eq_transmit_iff
    (alike : request.AnsweredAlike reply other)
    (error : TransportError) :
    reply = .stopped (.failed (.transmit error)) ↔
      other = .stopped (.failed (.transmit error)) := by
  cases alike with
  | same => exact Iff.rfl
  | heard hangsUp heard heardToo =>
      exact iff_of_false (heard.ne_transmit error) (heardToo.ne_transmit error)

end Request.AnsweredAlike

namespace Session

variable {Source : Type}
variable {session : Session Source}
variable {stream : Stream}
variable {limit : Option Duration}
variable {first second : Except (Stop SessionError) SessionSummary × Stream}

theorem FinishAlike.writesAlike
    (finish : session.FinishAlike stream limit first second) :
    first.2.WritesAlike second.2 := by
  cases finish with
  | stopped alike =>
      cases alike with
      | intro result alike => exact alike
  | concluded progress alike wrote wroteToo concludes concludesToo =>
      rw [concludes, concludesToo]
      exact ((writesAlike_conclude _).symm.trans alike).trans
        (writesAlike_conclude _)

theorem FinishAlike.answeredAlike
    {request : Request}
    (hangsUp : request.HangsUp)
    (finish : session.FinishAlike stream limit first second) :
    request.AnsweredAlike (.ofExcept .finished first.1)
      (.ofExcept .finished second.1) := by
  cases finish with
  | stopped alike =>
      cases alike with
      | intro result alike => exact .same _
  | concluded progress alike wrote wroteToo concludes concludesToo =>
      rw [concludes, concludesToo]
      exact .heard hangsUp (.of_conclude _) (.of_conclude _)

/-- If the same comes back and the wait is as long, the result is the same. -/
theorem FinishAlike.result_eq
    (finish : session.FinishAlike stream limit first second)
    (incoming : stream.incoming = session.stream.incoming)
    (sameLimit : limit = session.ackTimeout) : second.1 = first.1 := by
  cases finish with
  | stopped alike =>
      cases alike with
      | intro result alike => rfl
  | @concluded after afterToo progress alike wrote wroteToo concludes
      concludesToo =>
      subst sameLimit
      rw [concludes, concludesToo]
      refine conclude_congr rfl rfl ?_
      change
        (Stream.awaitFrom session.ackTimeout .zero afterToo.incoming).1 =
          (Stream.awaitFrom session.ackTimeout .zero after.incoming).1
      rw [wrote.incoming, wroteToo.incoming, incoming]

end Session

namespace Conversation

variable {Source : Type}

/-- Two conversations have come to the same and have written the same. If they
are open, they may hear something else and wait for another time. -/
inductive WritesAlike : Conversation Source -> Conversation Source -> Prop
  | active
      {session : Session Source}
      {stream : Stream}
      (limit : Option Duration)
      (alike : session.stream.WritesAlike stream) :
      WritesAlike (.active session) (.active (session.facing stream limit))
  | ended
      {first second : Stream}
      (alike : first.WritesAlike second) :
      WritesAlike (.ended first) (.ended second)

/-- The same comes back to two conversations, and they wait as long for it, if
they are open. -/
inductive HearsAlike : Conversation Source -> Conversation Source -> Prop
  | active
      {session other : Session Source}
      (incoming : other.stream.incoming = session.stream.incoming)
      (limit : other.ackTimeout = session.ackTimeout) :
      HearsAlike (.active session) (.active other)
  | ended (first second : Stream) : HearsAlike (.ended first) (.ended second)

variable {first second : Conversation Source}

theorem WritesAlike.stream
    (alike : first.WritesAlike second) :
    first.stream.WritesAlike second.stream := by
  cases alike with
  | active limit alike => exact alike
  | ended alike => exact alike

variable [WordSource Source]

/-- A request to two conversations that have written the same is answered
alike and leaves them so. -/
theorem WritesAlike.ask
    (alike : first.WritesAlike second)
    (request : Request) :
    request.AnsweredAlike (first.ask request).1 (second.ask request).1 ∧
      (first.ask request).2.WritesAlike (second.ask request).2 := by
  cases alike with
  | ended alike => exact ⟨.same _, .ended alike⟩
  | @active session stream limit alike =>
      unfold ask
      cases request with
      | streamId index =>
          unfold askActive
          dsimp only
          rw [Session.streamId_facing]
          cases session.streamId index with
          | error fault => exact ⟨.same _, .active limit alike⟩
          | ok id => exact ⟨.same _, .active limit alike⟩
      | sendStream index =>
          have sent := session.goOnAlike_sendStream limit alike index
          unfold askActive
          dsimp only
          generalize session.sendStream index = outcome at sent ⊢
          generalize (session.facing stream limit).sendStream index = other
            at sent ⊢
          cases sent with
          | intro result alike => exact ⟨.same _, .active limit alike⟩
      | run =>
          have finish := session.finishAlike_run limit alike
          exact ⟨finish.answeredAlike (.inl rfl), .ended finish.writesAlike⟩
      | hangup =>
          have finish := session.finishAlike_hangup limit alike
          exact ⟨finish.answeredAlike (.inr rfl), .ended finish.writesAlike⟩
      | shutdown =>
          have ends := session.endAlike_shutdown_facing limit alike
          unfold askActive
          dsimp only
          generalize session.shutdown = outcome at ends ⊢
          generalize (session.facing stream limit).shutdown = other at ends ⊢
          cases ends with
          | intro result alike => exact ⟨.same _, .ended alike⟩

/-- If the same comes back as well, a request is answered with the same
reply. -/
theorem HearsAlike.reply_eq
    (hears : first.HearsAlike second)
    (alike : first.WritesAlike second)
    (request : Request) :
    (second.ask request).1 = (first.ask request).1 := by
  by_cases quiet : ¬request.HangsUp
  · exact (alike.ask request).1.eq_of_not_hangsUp quiet
  cases alike with
  | ended alike => rfl
  | @active session stream limit alike =>
      cases hears with
      | active incoming sameLimit =>
          rcases not_not.mp quiet with rfl | rfl
          · exact congrArg (Reply.ofExcept .finished)
              ((session.finishAlike_run limit alike).result_eq incoming
                sameLimit)
          · exact congrArg (Reply.ofExcept .finished)
              ((session.finishAlike_hangup limit alike).result_eq incoming
                sameLimit)

theorem HearsAlike.ask
    (hears : first.HearsAlike second)
    (request : Request) :
    (first.ask request).2.HearsAlike (second.ask request).2 := by
  cases hears with
  | ended stream streamToo => exact .ended stream streamToo
  | @active session other incoming limit =>
      by_cases final : request.IsFinal
      · obtain ⟨now, ended, _⟩ := exists_ended_of_final session final
        obtain ⟨nowToo, endedToo, _⟩ := exists_ended_of_final other final
        rw [Conversation.ask, Conversation.ask, ended, endedToo]
        exact .ended now nowToo
      · obtain ⟨next, active, continues, wrote⟩ :=
          exists_active_of_not_final session final
        obtain ⟨nextToo, activeToo, continuesToo, wroteToo⟩ :=
          exists_active_of_not_final other final
        rw [Conversation.ask, Conversation.ask, active, activeToo]
        refine .active ?_ ?_
        · rw [wroteToo.wroteOnly.incoming, incoming, wrote.wroteOnly.incoming]
        · rw [continues.ackTimeout, continuesToo.ackTimeout, limit]

/-- Whatever is requested, conversations that have written the same go on to
write the same, and each request is answered alike. -/
theorem WritesAlike.askAll
    {requests : List Request}
    {position : Nat}
    {reply other : Reply}
    {after afterToo : Conversation Source}
    (alike : first.WritesAlike second)
    (found : (askAll requests first)[position]? = some (reply, after))
    (foundToo :
      (askAll requests second)[position]? = some (other, afterToo)) :
    ∃ request,
      requests[position]? = some request ∧
        request.AnsweredAlike reply other ∧ after.WritesAlike afterToo := by
  induction requests generalizing first second position with
  | nil => cases found
  | cons request requests hypothesis =>
      have step := alike.ask request
      cases position with
      | zero =>
          have outcome : first.ask request = (reply, after) :=
            Option.some.inj found
          have outcomeToo : second.ask request = (other, afterToo) :=
            Option.some.inj foundToo
          rw [outcome, outcomeToo] at step
          exact ⟨request, rfl, step⟩
      | succ position => exact hypothesis step.2 found foundToo

/-- If the same comes back to them as well, they get the same replies. -/
theorem HearsAlike.askAll
    (hears : first.HearsAlike second)
    (alike : first.WritesAlike second)
    (requests : List Request) :
    (askAll requests second).map Prod.fst =
      (askAll requests first).map Prod.fst := by
  induction requests generalizing first second with
  | nil => rfl
  | cons request requests hypothesis =>
      have later := hypothesis (hears.ask request) (alike.ask request).2
      have now := hears.reply_eq alike request
      exact List.cons_eq_cons.mpr ⟨now, later⟩

end Conversation

namespace Session

variable {Source : Type} [WordSource Source]

/-- A session, and the same session over another stream that may hear and close
otherwise and with another limit of its wait, are asked the same. Behind every
request both have made the same attempts to write, of which the same bytes were
accepted, and the request has failed to write in one as in the other. All that
does not hang up gets the same reply. How closing goes changes no reply at
all. -/
structure WritesRegardless
    (session : Session Source)
    (stream : Stream)
    (limit : Option Duration)
    (requests : List Request) : Prop where
  written : ∀ (position : Nat) (reply other : Reply)
      (after afterToo : Conversation Source),
    (Conversation.askAll requests (.active session))[position]? =
        some (reply, after) ->
      (Conversation.askAll requests
          (.active (session.facing stream limit)))[position]? =
            some (other, afterToo) ->
        after.stream.WritesAlike afterToo.stream
  failed : ∀ (position : Nat) (reply other : Reply)
      (after afterToo : Conversation Source) (error : TransportError),
    (Conversation.askAll requests (.active session))[position]? =
        some (reply, after) ->
      (Conversation.askAll requests
          (.active (session.facing stream limit)))[position]? =
            some (other, afterToo) ->
        (reply = .stopped (.failed (.transmit error)) ↔
          other = .stopped (.failed (.transmit error)))
  unheard : ∀ (position : Nat) (request : Request) (reply other : Reply)
      (after afterToo : Conversation Source),
    requests[position]? = some request ->
      ¬request.HangsUp ->
        (Conversation.askAll requests (.active session))[position]? =
            some (reply, after) ->
          (Conversation.askAll requests
              (.active (session.facing stream limit)))[position]? =
                some (other, afterToo) ->
            other = reply
  closing : stream.incoming = session.stream.incoming ->
    limit = session.ackTimeout ->
      (Conversation.askAll requests
          (.active (session.facing stream limit))).map Prod.fst =
        (Conversation.askAll requests (.active session)).map Prod.fst

/-- Whatever is requested of a session, what comes back has no part in what it
writes. -/
theorem writesRegardless_of_writesAlike
    {session : Session Source}
    {stream : Stream}
    (alike : session.stream.WritesAlike stream)
    (limit : Option Duration)
    (requests : List Request) :
    session.WritesRegardless stream limit requests := by
  have conversations : (Conversation.active session).WritesAlike
      (.active (session.facing stream limit)) := .active limit alike
  refine ⟨?_, ?_, ?_, ?_⟩
  · intro position reply other after afterToo found foundToo
    obtain ⟨_, _, _, later⟩ := conversations.askAll found foundToo
    exact later.stream
  · intro position reply other after afterToo error found foundToo
    obtain ⟨_, _, answered, _⟩ := conversations.askAll found foundToo
    exact answered.eq_transmit_iff error
  · intro position request reply other after afterToo asked quiet found
      foundToo
    obtain ⟨_, askedToo, answered, _⟩ := conversations.askAll found foundToo
    cases asked.symm.trans askedToo
    exact answered.eq_of_not_hangsUp quiet
  · intro incoming sameLimit
    have hears : (Conversation.active session).HearsAlike
        (.active (session.facing stream limit)) := .active incoming sameLimit
    exact hears.askAll conversations requests

/-- A stream that takes writes as that of the torn session does, but on which
nothing ever comes back and closing fails. -/
def mute : Stream :=
  .start
    { torn.stream.script with
      closeError := some (.ofKind .connectionReset) } [.pending]

/-- The torn session writes the same when nobody answers it. -/
theorem torn_writes_regardless :
    torn.stream.WritesAlike mute ∧
      torn.WritesRegardless mute (some (.ofMilliseconds 5))
        [.sendStream 0, .hangup] := by
  have alike : torn.stream.WritesAlike mute := ⟨⟨rfl, rfl, rfl⟩, rfl, rfl⟩
  exact ⟨alike, writesRegardless_of_writesAlike alike _ _⟩

end Session
end StreamLoad

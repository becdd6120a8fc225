import StreamLoad.Proofs.Session.Alike

/-!
# Sessions whose writes succeed

A run writes its dictation to the end or stops at a write that fails. In the
first case it has sent all that was dictated, and only what comes back decides
how it goes on. So over two streams on which no write fails a session sends the
same bytes, and it ends in the same way if its wait for the acknowledgment does.
-/

namespace StreamLoad
namespace Session

variable {Source : Type}

/-- How a session concludes is decided by what it has sent and by the end of
its wait. -/
theorem conclude_congr
    {first second : Session Source}
    (summary : second.summary = first.summary)
    (limit : second.ackTimeout = first.ackTimeout)
    (arrives : (second.stream.awaitByte second.ackTimeout).1 =
      (first.stream.awaitByte first.ackTimeout).1) :
    second.conclude.1 = first.conclude.1 := by
  rw [conclude_eq, conclude_eq, arrives, limit, summary]
  cases (first.stream.awaitByte first.ackTimeout).1.verdict
    first.ackTimeout <;> rfl

variable [WordSource Source]

/-- A run has written its dictation to the end and gone on behind it. -/
structure RanWhole
    (session : Session Source)
    (after : Stream) : Prop where
  wrote : session.stream.WroteOnly after
  sent : after.sent = session.stream.sent ++ session.dictation.bytes
  result : session.run =
    match session.dictation.ending with
    | .error halt => (.error (.halted halt), after)
    | .ok progress => (session.resume progress after).conclude

/-- A run writes its dictation to the end or stops at a write that fails. -/
theorem run_cases (session : Session Source) :
    (∃ after,
      session.stream.Writing session.dictation.bytes (.ok ()) after ∧
        session.RanWhole after) ∨
    (∃ stop after,
      session.stream.Writing session.dictation.bytes (.error stop) after ∧
        session.run = (.error (stop.map .transmit), after)) := by
  have ran := session.run_eq
  rcases session.dictation.carryOut_cases session.stream with
    ⟨after, writing, carried⟩ | ⟨stop, after, writing, carried⟩
  all_goals rw [carried] at ran
  · refine .inl ⟨after, writing, writing.wroteOnly, ?_, ?_⟩
    · cases writing with
      | whole wrote calm sent => exact sent
    · rw [ran]
      cases session.dictation.ending <;> rfl
  · exact .inr ⟨stop, after, writing, ran⟩

theorem RanWhole.sent_run
    {session : Session Source}
    {after : Stream}
    (ran : session.RanWhole after) :
    session.run.2.sent = session.stream.sent ++ session.dictation.bytes := by
  rw [ran.result, ← ran.sent]
  cases session.dictation.ending with
  | error halt => rfl
  | ok progress => exact (writesAlike_conclude _).sent_eq

/-- Whatever happens, a run sends a beginning of what is dictated. -/
theorem exists_begun_dictation (session : Session Source) :
    ∃ accepted,
      session.run.2.sent = session.stream.sent ++ accepted ∧
        accepted <+: session.dictation.bytes := by
  rcases session.run_cases with ⟨after, _, ran⟩ | ⟨stop, after, writing, ran⟩
  · exact ⟨_, ran.sent_run, List.prefix_rfl⟩
  · rw [ran]
    exact writing.exists_accepted

/-- Over a stream that takes everything a run writes its dictation to the
end. -/
theorem exists_ranWhole_of_takesAll
    {session : Session Source}
    (takesAll : session.stream.script.TakesAll) :
    ∃ after, session.RanWhole after := by
  rcases session.run_cases with ⟨after, _, ran⟩ | ⟨stop, after, writing, _⟩
  · exact ⟨after, ran⟩
  · cases (writing.whole_of_takesAll takesAll).1

/-- Two runs of a session that write its dictation to the end have the same
result, if what comes back ends their waits alike. -/
theorem RanWhole.result_eq
    {session : Session Source}
    {stream after afterToo : Stream}
    (ran : session.RanWhole after)
    (ranToo : (session.withStream stream).RanWhole afterToo)
    (arrives : (stream.awaitByte session.ackTimeout).1 =
      (session.stream.awaitByte session.ackTimeout).1) :
    (session.withStream stream).run.1 = session.run.1 := by
  rw [ran.result, ranToo.result, dictation_withStream]
  cases session.dictation.ending with
  | error halt => rfl
  | ok progress =>
      refine conclude_congr rfl rfl ?_
      change (Stream.awaitFrom session.ackTimeout .zero afterToo.incoming).1 =
        (Stream.awaitFrom session.ackTimeout .zero after.incoming).1
      rw [ran.wrote.incoming, ranToo.wrote.incoming]
      exact arrives

/-- Over a stream that takes everything a session ends as it does where it has
written its dictation to the end, if what comes back ends its waits alike. -/
theorem RanWhole.result_withStream
    {session : Session Source}
    {stream after : Stream}
    (ran : session.RanWhole after)
    (takesAll : stream.script.TakesAll)
    (arrives : (stream.awaitByte session.ackTimeout).1 =
      (session.stream.awaitByte session.ackTimeout).1) :
    (session.withStream stream).run.1 = session.run.1 := by
  obtain ⟨_, ranToo⟩ :
      ∃ after, (session.withStream stream).RanWhole after :=
    exists_ranWhole_of_takesAll takesAll
  exact ran.result_eq ranToo arrives

/-- A session run over a stream that takes everything sends at least what it
sends over another one, and the same if it writes its dictation to the end
there. -/
theorem sent_withStream_of_takesAll
    (session : Session Source)
    {stream : Stream}
    (unsent : session.stream.sent = [])
    (unsentToo : stream.sent = [])
    (takesAll : stream.script.TakesAll) :
    session.run.2.sent <+: (session.withStream stream).run.2.sent ∧
      ∀ after, session.RanWhole after ->
        session.run.2.sent = (session.withStream stream).run.2.sent := by
  obtain ⟨after, whole⟩ :
      ∃ after, (session.withStream stream).RanWhole after :=
    exists_ranWhole_of_takesAll takesAll
  have all : (session.withStream stream).run.2.sent =
      session.dictation.bytes := by
    rw [whole.sent_run, dictation_withStream]
    change stream.sent ++ _ = _
    rw [unsentToo, List.nil_append]
  rw [all]
  refine ⟨?_, ?_⟩
  · obtain ⟨accepted, sent, begun⟩ := session.exists_begun_dictation
    rw [sent, unsent, List.nil_append]
    exact begun
  · intro _ ran
    rw [ran.sent_run, unsent, List.nil_append]

end Session
end StreamLoad

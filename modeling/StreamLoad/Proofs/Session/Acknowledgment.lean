import StreamLoad.Proofs.Transport.Waiting
import StreamLoad.Session.Basic

/-!
# The acknowledgment of a hangup

What a session makes of the end of its wait depends on that end and on the
limit alone. Only a byte, of any value, is an acknowledgment; the session then
closes the stream and reports what it has sent before.
-/

namespace StreamLoad

/-- What the end of a wait, up to some limit, means for a hangup. -/
def Arrival.verdict (limit : Option Duration) :
    Arrival -> Except (Stop SessionError) UInt8
  | .byte value => .ok value
  | .closed => .error (.failed .ackClosed)
  | .failed error =>
      if error.kind = .unexpectedEof then
        .error (.failed .ackClosed)
      else
        .error (.failed (.ackRead error))
  | .expired =>
      match limit with
      | some bound => .error (.failed (.ackTimeout bound))
      | none => .error (.halted .endless)
  | .never => .error (.halted .endless)

/-- Only a byte is an acknowledgment. -/
theorem Arrival.verdict_eq_ok_iff
    {limit : Option Duration}
    {arrival : Arrival}
    {value : UInt8} :
    arrival.verdict limit = .ok value ↔ arrival = .byte value := by
  cases arrival with
  | byte other => simp [verdict]
  | closed => simp [verdict]
  | failed error =>
      by_cases ended : error.kind = .unexpectedEof <;> simp [verdict, ended]
  | expired => cases limit <;> simp [verdict]
  | never => simp [verdict]

namespace Session

variable {Source : Type}

theorem readAck_eq (session : Session Source) :
    session.readAck =
      ((session.stream.awaitByte session.ackTimeout).1.verdict
          session.ackTimeout,
        { session with
          stream := (session.stream.awaitByte session.ackTimeout).2 }) := by
  unfold readAck
  rcases session.stream.awaitByte session.ackTimeout with ⟨arrival, waited⟩
  cases arrival with
  | byte value => rfl
  | closed => rfl
  | failed error =>
      by_cases ended : error.kind = .unexpectedEof <;>
        simp [Arrival.verdict, ended]
  | expired => cases session.ackTimeout <;> rfl
  | never => rfl

/-- A session concludes by what its wait has brought. -/
theorem conclude_eq (session : Session Source) :
    session.conclude =
      match (session.stream.awaitByte session.ackTimeout).1.verdict
          session.ackTimeout with
      | .error stop =>
          (.error stop, (session.stream.awaitByte session.ackTimeout).2)
      | .ok _ =>
          (.ok session.summary,
            (session.stream.awaitByte session.ackTimeout).2.close.2) := by
  unfold conclude
  rw [readAck_eq]
  cases (session.stream.awaitByte session.ackTimeout).1.verdict
    session.ackTimeout <;> rfl

theorem result_conclude (session : Session Source) :
    session.conclude.1 =
      ((session.stream.awaitByte session.ackTimeout).1.verdict
        session.ackTimeout).map fun _ => session.summary := by
  rw [conclude_eq]
  cases (session.stream.awaitByte session.ackTimeout).1.verdict
    session.ackTimeout <;> rfl

/-- A session that concludes well reports what it has counted. -/
theorem summary_of_conclude
    {session : Session Source}
    {summary : SessionSummary}
    (succeeded : session.conclude.1 = .ok summary) :
    summary = session.summary := by
  rw [result_conclude] at succeeded
  generalize Arrival.verdict _ _ = verdict at succeeded
  cases verdict with
  | error stop => cases succeeded
  | ok value =>
      cases succeeded
      rfl

end Session
end StreamLoad

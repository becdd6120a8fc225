import StreamLoad.Proofs.Session.Alike
import StreamLoad.Proofs.Transport.Hearing

/-!
# How a hangup ends

Behind the whole of its header a hangup waits, and the first item that can end
the wait decides how it ends: a byte of any value is success, and the other side
closing, a read that fails or the time that is up are each an error of its own.
A session that has not run out of time would have ended in the same way with
more of it.
-/

namespace StreamLoad

/-- What ends a wait in time means the same whatever its limit is. -/
theorem ReadItem.Ends.verdict_eq
    {item : ReadItem}
    {arrival : Arrival}
    (ends : item.Ends arrival)
    (limit other : Option Duration) :
    arrival.verdict other = arrival.verdict limit := by
  cases ends <;> rfl

/-- A wait up to the first limit is no longer than one up to the second. A wait
without a limit is the longest. -/
def NoLonger : Option Duration -> Option Duration -> Prop
  | _, none => True
  | none, some _ => False
  | some first, some second => first.Within second

/-- A wait that expires would have expired with less time. -/
theorem Stream.Expires.of_noLonger
    {limit longer : Option Duration}
    {incoming : List ReadItem}
    (order : NoLonger limit longer)
    (expires : Expires longer incoming) : Expires limit incoming := by
  obtain ⟨bound, rfl, cause⟩ := expires
  cases limit with
  | none => exact order.elim
  | some earlier =>
      refine ⟨earlier, rfl, cause.imp_right ?_⟩
      intro late soon
      exact late (Nat.le_trans soon order)

namespace Session

variable {Source : Type}

/-- How a hangup ends whose header has been written whole. What it hears is the
first item that is neither a delay nor an interrupted read. If there is a limit,
and this item never comes or comes later, the time is up. Otherwise the item
decides: a byte of any value is an acknowledgment, the end of what comes back
or a read that fails with it means that the other side has closed, any other
failed read is passed on, and without a limit a wait for nothing never ends.
With a longer limit an end that was not the limit's stays the same. -/
structure EndsByHearing (session : Session Source) : Prop where
  heard : ¬(Stream.firstHeard session.stream.incoming).passes
  expired : ∀ limit, session.ackTimeout = some limit ->
    Stream.firstHeard session.stream.incoming = .pending ∨
        ¬(Stream.delayBefore session.stream.incoming).Within limit ->
      session.hangup.1 = .error (.failed (.ackTimeout limit))
  acknowledged : ∀ value,
    ¬Stream.Expires session.ackTimeout session.stream.incoming ->
      Stream.firstHeard session.stream.incoming = .byte value ->
        session.hangup.1 = .ok session.summary
  closed : ¬Stream.Expires session.ackTimeout session.stream.incoming ->
    Stream.firstHeard session.stream.incoming = .closed ->
      session.hangup.1 = .error (.failed .ackClosed)
  ended : ∀ cause,
    ¬Stream.Expires session.ackTimeout session.stream.incoming ->
      Stream.firstHeard session.stream.incoming = .error cause ->
        cause.kind = .unexpectedEof ->
          session.hangup.1 = .error (.failed .ackClosed)
  failed : ∀ cause,
    ¬Stream.Expires session.ackTimeout session.stream.incoming ->
      Stream.firstHeard session.stream.incoming = .error cause ->
        cause.kind ≠ .unexpectedEof ->
          session.hangup.1 = .error (.failed (.ackRead cause))
  endless : session.ackTimeout = none ->
    Stream.firstHeard session.stream.incoming = .pending ->
      session.hangup.1 = .error (.halted .endless)
  longer : ∀ limit, NoLonger session.ackTimeout limit ->
    (∀ bound, session.hangup.1 ≠ .error (.failed (.ackTimeout bound))) ->
      (session.facing session.stream limit).hangup.1 = session.hangup.1

variable {session : Session Source}

/-- Behind the whole of its header a hangup gives what its wait means. -/
theorem result_hangup
    (accepted :
      (session.stream.writeAll Header.hangup.encode).1 = .ok ()) :
    session.hangup.1 =
      ((session.stream.awaitByte session.ackTimeout).1.verdict
        session.ackTimeout).map fun _ => session.summary := by
  have writing := session.stream.writing_writeAll Header.hangup.encode
  rcases written : session.stream.writeAll Header.hangup.encode with
    ⟨result, signed⟩
  rw [written] at accepted writing
  obtain rfl : result = .ok () := accepted
  have hungUp : session.hangup = (session.withStream signed).conclude := by
    unfold hangup sendHeader
    rw [written]
    rfl
  have arrives : (signed.awaitByte session.ackTimeout).1 =
      (session.stream.awaitByte session.ackTimeout).1 := by
    change (Stream.awaitFrom session.ackTimeout .zero signed.incoming).1 = _
    rw [writing.wroteOnly.incoming]
    rfl
  rw [hungUp, result_conclude, ← arrives]
  rfl

/-- A hangup that has run out of time reports its limit. -/
theorem result_hangup_of_expires
    {limit : Duration}
    (accepted :
      (session.stream.writeAll Header.hangup.encode).1 = .ok ())
    (limited : session.ackTimeout = some limit)
    (late : Stream.firstHeard session.stream.incoming = .pending ∨
      ¬(Stream.delayBefore session.stream.incoming).Within limit) :
    session.hangup.1 = .error (.failed (.ackTimeout limit)) := by
  rw [result_hangup accepted]
  rcases session.stream.awaitByte_cases session.ackTimeout with
    ⟨_, arrives⟩ | ⟨inTime, _⟩
  · rw [arrives, limited]
    rfl
  · exact absurd ⟨limit, limited, late⟩ inTime

/-- A hangup with time enough gives what the first item means that can end its
wait. -/
theorem exists_ends_hangup
    (accepted :
      (session.stream.writeAll Header.hangup.encode).1 = .ok ())
    (inTime : ¬Stream.Expires session.ackTimeout session.stream.incoming) :
    ∃ arrival,
      (Stream.firstHeard session.stream.incoming).Ends arrival ∧
        session.hangup.1 =
          (arrival.verdict session.ackTimeout).map
            fun _ => session.summary := by
  rcases session.stream.awaitByte_cases session.ackTimeout with
    ⟨expires, _⟩ | ⟨_, ends⟩
  · exact absurd expires inTime
  · exact ⟨_, ends, result_hangup accepted⟩

/-- A hangup with time enough ends in the same way with more of it. -/
theorem result_hangup_of_noLonger
    {limit : Option Duration}
    (accepted :
      (session.stream.writeAll Header.hangup.encode).1 = .ok ())
    (inTime : ¬Stream.Expires session.ackTimeout session.stream.incoming)
    (order : NoLonger session.ackTimeout limit) :
    (session.facing session.stream limit).hangup.1 = session.hangup.1 := by
  obtain ⟨arrival, ends, result⟩ := exists_ends_hangup accepted inTime
  have acceptedToo : ((session.facing session.stream limit).stream.writeAll
      Header.hangup.encode).1 = .ok () := accepted
  have inTimeToo : ¬Stream.Expires limit session.stream.incoming :=
    fun expires => inTime (expires.of_noLonger order)
  obtain ⟨arrivalToo, endsToo, resultToo⟩ :=
    exists_ends_hangup acceptedToo inTimeToo
  obtain rfl := ends.unique endsToo
  rw [result, resultToo]
  exact congrArg _ (ends.verdict_eq session.ackTimeout limit)

/-- Every hangup whose header is written whole ends by what it hears. -/
theorem endsByHearing_of_accepted
    (accepted :
      (session.stream.writeAll Header.hangup.encode).1 = .ok ()) :
    session.EndsByHearing where
  heard := Stream.not_passes_firstHeard session.stream.incoming
  expired := fun _ => result_hangup_of_expires accepted
  acknowledged := by
    intro value inTime first
    obtain ⟨arrival, ends, result⟩ := exists_ends_hangup accepted inTime
    rw [first] at ends
    cases ends
    exact result
  closed := by
    intro inTime first
    obtain ⟨arrival, ends, result⟩ := exists_ends_hangup accepted inTime
    rw [first] at ends
    cases ends
    exact result
  ended := by
    intro cause inTime first ended
    obtain ⟨arrival, ends, result⟩ := exists_ends_hangup accepted inTime
    rw [first] at ends
    cases ends
    rw [result, Arrival.verdict, if_pos ended]
    rfl
  failed := by
    intro cause inTime first lasting
    obtain ⟨arrival, ends, result⟩ := exists_ends_hangup accepted inTime
    rw [first] at ends
    cases ends
    rw [result, Arrival.verdict, if_neg lasting]
    rfl
  endless := by
    intro unlimited first
    have inTime :
        ¬Stream.Expires session.ackTimeout session.stream.incoming := by
      rintro ⟨bound, limited, _⟩
      cases unlimited.symm.trans limited
    obtain ⟨arrival, ends, result⟩ := exists_ends_hangup accepted inTime
    rw [first] at ends
    cases ends
    exact result
  longer := by
    intro limit order unexpired
    refine result_hangup_of_noLonger accepted ?_ order
    rintro ⟨bound, limited, late⟩
    exact unexpired bound (result_hangup_of_expires accepted limited late)

/-- A session that waits for fifty milliseconds and hears a byte after exactly
as many, behind two interruptions. -/
def punctual : Session KeyStream :=
  { stream := .start .reliable
      [.error (.ofKind .interrupted), .delay 30, .error (.ofKind .interrupted),
        .delay 20, .byte 7]
    source := .seeded 2
    idPrefix := 0
    plan := ⟨[]⟩
    pageSize := .standard
    ackTimeout := some (.ofMilliseconds 50)
    streamsSent := 0
    bytesSent := 0 }

theorem punctual_endsByHearing :
    (punctual.stream.writeAll Header.hangup.encode).1 = .ok () ∧
      Stream.delayBefore punctual.stream.incoming = .ofMilliseconds 50 ∧
      punctual.EndsByHearing ∧
      punctual.hangup.1 = .ok punctual.summary := by
  have accepted :
      (punctual.stream.writeAll Header.hangup.encode).1 = .ok () := by
    rw [Stream.writeAll_of_accepted (by decide) rfl rfl]
  have ends := endsByHearing_of_accepted accepted
  refine ⟨accepted, by decide, ends, ends.acknowledged 7 ?_ rfl⟩
  rintro ⟨bound, limited, late⟩
  cases limited
  exact absurd late (by decide)

end Session
end StreamLoad

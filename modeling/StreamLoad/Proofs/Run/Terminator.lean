import StreamLoad.Proofs.Frame.Receiver
import StreamLoad.Proofs.Session.Delivery
import StreamLoad.Run.Load

/-!
# What the shutdown sends

The connection that shuts the server down carries nothing but a beginning of
the shutdown header, and the whole header when everything is taken.
-/

namespace StreamLoad

/-- A shutdown writes its header and nothing else. -/
theorem Session.writing_shutdown
    {Source : Type}
    (session : Session Source) :
    ∃ result after,
      session.stream.Writing Header.shutdown.encode result after ∧
        session.shutdown.2.sent = after.sent ∧
        session.shutdown.1 =
          result.mapError fun stop => stop.map .transmit := by
  have writing := session.stream.writing_writeAll Header.shutdown.encode
  unfold shutdown sendHeader
  rcases written : session.stream.writeAll Header.shutdown.encode with
    ⟨stop | ⟨⟩, after⟩
  all_goals
    rw [written] at writing
    exact ⟨_, after, writing, rfl, rfl⟩

namespace Settings

variable {Source : Type}

/-- Whatever happens, the shutdown sends a beginning of its header. -/
theorem sent_runTerminator_begun
    {settings : Settings}
    {network : Network}
    {source : Source}
    {stream : Stream}
    (connected :
      (settings.runTerminator network source).connection = some stream) :
    stream.sent <+: Header.shutdown.encode := by
  unfold runTerminator at connected
  split at connected
  next => cases connected
  next counterpart met =>
    split at connected
    next =>
      cases connected
      exact List.nil_prefix
    next session started =>
      cases connected
      obtain ⟨result, after, writing, sent, _⟩ := session.writing_shutdown
      obtain ⟨accepted, later, begun⟩ := writing.exists_accepted
      have fresh := Session.startedWith_of_start started
      rw [sent, later, fresh.stream]
      exact begun

/-- A shutdown that is taken whole sends its header and succeeds. -/
theorem runTerminator_of_takesAll
    {settings : Settings}
    {network : Network}
    {counterpart : Counterpart}
    {pageSize : PageSize}
    (source : Source)
    (met : network .terminator 0 = .ok counterpart)
    (takesAll : counterpart.script.TakesAll)
    (page : PageSize.ofBytes settings.pageSize = .ok pageSize) :
    ∃ stream,
      settings.runTerminator network source =
          { connection := some stream, ending := .ok () } ∧
        receive stream.sent =
          { frames := [.bare .shutdown], ending := .complete } := by
  obtain ⟨session, started⟩ : ∃ session,
      Session.start counterpart.stream 0 .empty source
        settings.sessionOptions = .ok session :=
    Session.exists_start _ _ _ _ page
  have fresh := Session.startedWith_of_start started
  obtain ⟨result, after, writing, sent, ended⟩ := session.writing_shutdown
  have script : session.stream.script.TakesAll := by
    rw [fresh.stream]
    exact takesAll
  obtain ⟨rfl, whole⟩ := writing.whole_of_takesAll script
  refine ⟨session.shutdown.2, ?_, ?_⟩
  · unfold runTerminator
    rw [met]
    dsimp only
    rw [started]
    dsimp only
    rw [ended]
    rfl
  · have bytes : session.shutdown.2.sent =
        Frame.encodeAll [.bare .shutdown] := by
      rw [sent, whole, fresh.stream]
      rfl
    rw [bytes]
    apply receive_encodeAll
    intro frame member
    obtain rfl := List.mem_singleton.mp member
    rfl

/-- The shutdown succeeds exactly when it has connected and all of its header
has been sent. -/
theorem runTerminator_eq_ok_iff
    {settings : Settings}
    {network : Network}
    {source : Source} :
    (settings.runTerminator network source).ending = .ok () ↔
      ∃ stream,
        (settings.runTerminator network source).connection = some stream ∧
          stream.sent = Header.shutdown.encode := by
  unfold runTerminator
  cases met : network .terminator 0 with
  | error cause => simp
  | ok counterpart =>
      dsimp only
      cases started : Session.start counterpart.stream 0 .empty source
          settings.sessionOptions with
      | error fault =>
          simp [Counterpart.stream, Stream.start, Stream.sent, Header.encode]
      | ok session =>
          have fresh := Session.startedWith_of_start started
          have unsent : session.stream.sent = [] := by
            rw [fresh.stream]
            rfl
          obtain ⟨result, after, writing, sent, ended⟩ :=
            session.writing_shutdown
          have written := writing.eq_ok_iff_sent
          rw [unsent, List.nil_append] at written
          dsimp only
          simp only [Option.some.injEq, exists_eq_left', sent, ended, ← written]
          cases result with
          | error stop =>
              refine iff_of_false ?_ ?_
              all_goals
                intro succeeded
                cases succeeded
          | ok done => exact iff_of_true rfl rfl

end Settings
end StreamLoad

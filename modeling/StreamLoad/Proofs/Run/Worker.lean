import StreamLoad.Proofs.Session.Delivery
import StreamLoad.Proofs.Session.Frames
import StreamLoad.Run.Worker

/-!
# What a worker does

A worker ends in one of four ways: without a plan, without a connection, at the
start of its session, or as its session ends. In the last case its connection
carries what the session has sent.
-/

namespace StreamLoad

namespace WorkerEnd

/-- A session of a worker that returned has not halted. -/
theorem ne_halted_of_returned
    {outcome : Except (Stop SessionError) SessionSummary}
    {result : Except SessionError SessionSummary}
    (returned : ofSession outcome = .returned result)
    (halt : Halt) : outcome ≠ .error (.halted halt) := by
  rintro rfl
  cases halt <;> cases returned

end WorkerEnd

namespace Settings

variable {Source : Type} [WordSource Source]

/-- How a worker ends, with what it has done until then. -/
inductive Worked
    (settings : Settings)
    (network : Network)
    (worker idPrefix : UInt64)
    (source : Source) : WorkerRecord -> Prop
  | unplanned
      (ending : WorkerEnd)
      (cutOff : ∀ result, ending ≠ .returned result) :
      Worked settings network worker idPrefix source
        { worker, idPrefix, plan := none, connection := none, ending }
  | unconnected
      (plan : Plan)
      (cause : TransportError)
      (met : network (.worker worker) idPrefix = .error cause) :
      Worked settings network worker idPrefix source
        { worker, idPrefix, plan := some plan, connection := none
          ending := .returned (.error (.connect settings.endpoint cause)) }
  | unstarted
      (plan : Plan)
      (counterpart : Counterpart)
      (fault : Fault)
      (met : network (.worker worker) idPrefix = .ok counterpart) :
      Worked settings network worker idPrefix source
        { worker, idPrefix, plan := some plan
          connection := some counterpart.stream, ending := .aborted fault }
  | conducted
      (plan : Plan)
      (later : Source)
      (counterpart : Counterpart)
      (session : Session Source)
      (drawn : Plan.draw settings.limits source = (.ok plan, later))
      (met : network (.worker worker) idPrefix = .ok counterpart)
      (started : Session.start counterpart.stream idPrefix plan later
        settings.sessionOptions = .ok session) :
      Worked settings network worker idPrefix source
        { worker, idPrefix, plan := some plan
          connection := some session.run.2
          ending := .ofSession session.run.1 }

theorem runWorker_worked
    (settings : Settings)
    (announced : Bool)
    (network : Network)
    (worker idPrefix : UInt64)
    (source : Source) :
    settings.Worked network worker idPrefix source
      (settings.runWorker announced network worker idPrefix source) := by
  unfold runWorker
  dsimp only
  split
  next => exact .unplanned _ nofun
  next => exact .unplanned _ nofun
  next plan later drawn =>
    split
    next => exact .unplanned _ nofun
    next =>
      split
      next cause met => exact .unconnected plan cause met
      next counterpart met =>
        split
        next fault _ => exact .unstarted plan counterpart fault met
        next session started =>
          exact .conducted plan later counterpart session drawn met started

/-- However a worker ends, its record is its own. -/
theorem Worked.owner
    {settings : Settings}
    {network : Network}
    {worker idPrefix : UInt64}
    {source : Source}
    {record : WorkerRecord}
    (worked : settings.Worked network worker idPrefix source record) :
    record.worker = worker ∧ record.idPrefix = idPrefix := by
  cases worked <;> exact ⟨rfl, rfl⟩

/-- Whatever happens, a worker sends a beginning of frames without a
shutdown. -/
theorem exists_frames_of_worked
    {settings : Settings}
    {network : Network}
    {worker idPrefix : UInt64}
    {source : Source}
    {record : WorkerRecord}
    {stream : Stream}
    (worked : settings.Worked network worker idPrefix source record)
    (connected : record.connection = some stream) :
    ∃ frames,
      (∀ frame ∈ frames,
        frame.WellFormed ∧ frame.header.command ≠ .shutdown) ∧
      stream.sent <+: Frame.encodeAll frames := by
  cases worked with
  | unplanned ending cutOff => cases connected
  | unconnected plan cause met => cases connected
  | unstarted plan counterpart fault met =>
      cases connected
      exact ⟨[], nofun, List.nil_prefix⟩
  | conducted plan later counterpart session drawn met started =>
      cases connected
      have fresh := Session.startedWith_of_start started
      have small : session.plan.size ≤ 2 ^ 64 := by
        rw [fresh.plan]
        exact Plan.size_le_of_draw drawn
      obtain ⟨accepted, sent, begun⟩ := Session.exists_accepted_run small
      obtain ⟨frames, quiet, whole⟩ := Plan.exists_frames_of_transcriptFrom
        session.idPrefix 0 session.plan.lengths session.source
      refine ⟨frames, quiet, ?_⟩
      rw [sent, fresh.stream]
      exact begun.trans whole

/-- A worker that returns over a connection that takes everything has sent its
whole transcript: data frames with ids from its first one on, and a hangup. -/
theorem receive_of_returned
    {settings : Settings}
    {network : Network}
    {worker idPrefix : UInt64}
    {source : Source}
    {record : WorkerRecord}
    {result : Except SessionError SessionSummary}
    (worked : settings.Worked network worker idPrefix source record)
    (takesAll : ∃ counterpart,
      network (.worker worker) idPrefix = .ok counterpart ∧
        counterpart.script.TakesAll)
    (room : idPrefix.toNat + settings.limits.maxStreams.toNat ≤ 2 ^ 64)
    (returned : record.ending = .returned result) :
    ∃ plan later stream,
      Plan.draw settings.limits source = (.ok plan, later) ∧
        record.connection = some stream ∧
        receive stream.sent =
          { frames := plan.frames idPrefix later ++ [.bare .hangup]
            ending := .complete } ∧
        (plan.frames idPrefix later).length = plan.size ∧
        ∃ pageSize, PageSize.ofBytes settings.pageSize = .ok pageSize := by
  obtain ⟨expected, expects, script⟩ := takesAll
  cases worked with
  | unplanned ending cutOff => exact absurd returned (cutOff result)
  | unconnected plan cause met =>
      rw [met] at expects
      cases expects
  | unstarted plan counterpart fault met => cases returned
  | conducted plan later counterpart session drawn met started =>
      rw [met] at expects
      cases expects
      have within := (Plan.within_of_draw drawn).1
      have fresh := Session.startedWith_of_start started
      have small : session.plan.size ≤ 2 ^ 64 := by
        rw [fresh.plan]
        have bounded := within.size
        omega
      have unhalted := WorkerEnd.ne_halted_of_returned returned
      have scriptIs : session.stream.script = expected.script := by
        rw [fresh.stream]
        rfl
      have unsent : session.stream.sent = [] := by
        rw [fresh.stream]
        rfl
      cases Session.run_conducted small with
      | whole progress after yielded writing ran =>
          rw [fresh.plan, fresh.source] at yielded
          refine ⟨plan, later, session.run.2, drawn, rfl, ?_,
            (Plan.transcriptFrom_eq_encodeAll yielded idPrefix 0).1,
            _, fresh.pageSize⟩
          cases writing with
          | whole wrote calm sent =>
              rw [unsent, fresh.plan, fresh.source, fresh.idPrefix] at sent
              have all : session.run.2.sent =
                  plan.transcript idPrefix later := by
                rw [ran, Session.sent_conclude]
                exact sent
              rw [all, Plan.receive_transcript yielded]
      | halted halt bytes after begun cause writing ran =>
          exact absurd (congrArg Prod.fst ran) (unhalted halt)
      | cut bytes error after begun writing ran =>
          obtain ⟨ended, _⟩ :=
            writing.whole_of_takesAll (scriptIs ▸ script)
          cases ended
      | interrupted bytes after begun unsettled writing ran =>
          exact absurd (scriptIs ▸ script.settles) unsettled

/-- A worker that draws its plan and all letters, has room for its ids and its
sum, and connects to someone who takes everything ends as a session concludes
that waits for what comes back, and leaves its connection as the session
does. -/
theorem exists_conclude_of_takesAll
    {settings : Settings}
    {announced : Bool}
    {network : Network}
    {worker idPrefix : UInt64}
    {source later : Source}
    {plan : Plan}
    {counterpart : Counterpart}
    {pageSize : PageSize}
    (drawn : Plan.draw settings.limits source = (.ok plan, later))
    (yielded : plan.YieldedBy later)
    (announces : announce announced plan = .ok ())
    (ids : idPrefix.toNat + plan.size ≤ 2 ^ 64)
    (total : plan.letterCount < 2 ^ 64)
    (page : PageSize.ofBytes settings.pageSize = .ok pageSize)
    (met : network (.worker worker) idPrefix = .ok counterpart)
    (takesAll : counterpart.script.TakesAll) :
    ∃ session : Session Source,
      session.stream.incoming = counterpart.incoming ∧
        session.stream.script = counterpart.script ∧
        settings.runWorker announced network worker idPrefix source =
          { worker, idPrefix, plan := some plan
            connection := some session.conclude.2
            ending := .ofSession session.conclude.1 } := by
  obtain ⟨session, started⟩ : ∃ session,
      Session.start counterpart.stream idPrefix plan later
        settings.sessionOptions = .ok session :=
    Session.exists_start _ _ _ _ page
  have fresh := Session.startedWith_of_start started
  have sessionIds : session.idPrefix.toNat + session.plan.size ≤ 2 ^ 64 := by
    rw [fresh.idPrefix, fresh.plan]
    exact ids
  have sessionTotal :
      session.bytesSent.toNat + session.plan.letterCount < 2 ^ 64 := by
    rw [fresh.bytesSent, fresh.plan]
    simpa using total
  have sessionYielded : session.plan.YieldedBy session.source := by
    rw [fresh.plan, fresh.source]
    exact yielded
  have sessionTakesAll : session.stream.script.TakesAll := by
    rw [fresh.stream]
    exact takesAll
  obtain ⟨progress, after, ran, wrote⟩ := Session.run_of_takesAll sessionIds
    sessionTotal sessionYielded sessionTakesAll
  refine ⟨session.resume progress after, ?_, ?_, ?_⟩
  · change after.incoming = _
    rw [wrote.incoming, fresh.stream]
    rfl
  · change after.script = _
    rw [wrote.script, fresh.stream]
    rfl
  · unfold runWorker
    rw [drawn]
    dsimp only
    rw [announces]
    dsimp only
    rw [met]
    dsimp only
    rw [started]
    dsimp only
    rw [ran]

/-- A worker succeeds that draws its plan and all letters, has room for its ids
and its sum, and connects to someone who takes everything and sends a byte. -/
theorem returned_of_acknowledged
    {settings : Settings}
    {announced : Bool}
    {network : Network}
    {worker idPrefix : UInt64}
    {source later : Source}
    {plan : Plan}
    {counterpart : Counterpart}
    {pageSize : PageSize}
    {value : UInt8}
    {rest : List ReadItem}
    (drawn : Plan.draw settings.limits source = (.ok plan, later))
    (yielded : plan.YieldedBy later)
    (announces : announce announced plan = .ok ())
    (ids : idPrefix.toNat + plan.size ≤ 2 ^ 64)
    (total : plan.letterCount < 2 ^ 64)
    (page : PageSize.ofBytes settings.pageSize = .ok pageSize)
    (met : network (.worker worker) idPrefix = .ok counterpart)
    (takesAll : counterpart.script.TakesAll)
    (waits : counterpart.incoming = .byte value :: rest) :
    ∃ summary,
      (settings.runWorker announced network worker idPrefix source).ending =
        .returned (.ok summary) := by
  obtain ⟨session, incoming, _, ran⟩ := exists_conclude_of_takesAll drawn
    yielded announces ids total page met takesAll
  obtain ⟨summary, concluded⟩ :=
    Session.conclude_of_byte (incoming.trans waits)
  refine ⟨summary, ?_⟩
  rw [ran, concluded]
  rfl

end Settings
end StreamLoad

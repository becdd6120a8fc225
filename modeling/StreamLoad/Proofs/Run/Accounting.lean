import StreamLoad.Proofs.Run.Reported
import StreamLoad.Proofs.Session.Summary

/-!
# The report and the wire

The counters of a report are kept by the sessions, and what went over the wire
is known from the frames that were received. The two agree: a worker that
succeeded reports what was received of it, the totals are sums over the workers
that succeeded and no others, and a shutdown is reported when one was received.
A worker whose hangup was not acknowledged has had all of its plan received, but
nothing of it is counted.
-/

namespace StreamLoad

namespace Settings

variable {Source : Type} [WordSource Source]

/-- A worker that returns, having connected and failed by no write, has had all
of its plan received. If it succeeds, it reports just that. -/
theorem Worked.amountsTo_of_returned
    {settings : Settings}
    {network : Network}
    {worker idPrefix : UInt64}
    {source : Source}
    {record : WorkerRecord}
    {result : Except SessionError SessionSummary}
    (worked : settings.Worked network worker idPrefix source record)
    (returned : record.ending = .returned result)
    (connected : ∀ endpoint cause, result ≠ .error (.connect endpoint cause))
    (written : ∀ cause, result ≠ .error (.transmit cause)) :
    ∃ plan stream,
      record.plan = some plan ∧
        record.connection = some stream ∧
        (receive stream.sent).AmountsTo plan.size plan.letterCount ∧
        ∀ summary, result = .ok summary ->
          summary.streams = plan.size ∧
            summary.bytes.toNat = plan.letterCount := by
  cases worked with
  | unplanned ending cutOff => exact absurd returned (cutOff result)
  | unconnected plan cause met =>
      cases returned
      exact absurd rfl (connected settings.endpoint cause)
  | unstarted plan counterpart fault met => cases returned
  | conducted plan later counterpart session drawn met started =>
      obtain ⟨stream, _, rfl, _, _, _, uncounted, unsummed⟩ :=
        Session.startedWith_of_start started
      have unsent : session.stream.sent = [] := by
        rw [stream]
        rfl
      have unhalted := WorkerEnd.ne_halted_of_returned returned
      have unfailed : ∀ error,
          session.run.1 ≠ .error (.failed (.transmit error)) := by
        intro error failed
        rw [failed] at returned
        cases returned
        exact written error rfl
      obtain ⟨amounts, reported⟩ := Session.amountsTo_run
        (Plan.size_le_of_draw drawn) unsent uncounted unsummed unhalted unfailed
      refine ⟨session.plan, session.run.2, rfl, rfl, amounts, ?_⟩
      rintro summary rfl
      apply reported summary
      dsimp only at returned
      rcases ran : session.run.1 with (error | fault | ⟨⟩) | other
      all_goals
        rw [ran] at returned
        cases returned
      rfl

end Settings

namespace Schedule

/-- What is received on the connection of an actor. -/
def State.received (state : State) (actor : Actor) : Reception :=
  receive (state.sentBy actor)

end Schedule

namespace Scenario

open Schedule

variable {Source : Type} [WordSource Source]

/-- A report at the end of a schedule agrees with what has been received. -/
structure Accounts
    (scenario : Scenario Source)
    (state : State)
    (report : Report) : Prop where
  succeeded : ∀ outcome ∈ report.outcomes, ∀ summary,
    outcome.result = .ok summary ->
      (state.received (.worker outcome.worker.toNat)).AmountsTo
        summary.streams summary.bytes.toNat
  unacknowledged : ∀ outcome ∈ report.outcomes, ∀ error,
    outcome.result = .error error -> Session.AckStop (.failed error) ->
      ∃ plan,
        (scenario.record outcome.worker.toNat).plan = some plan ∧
          (state.received (.worker outcome.worker.toNat)).AmountsTo plan.size
            plan.letterCount
  totalStreams : ∀ total,
    report.totalStreams = .ok total ↔
      total = (scenario.successful.map fun index =>
          (state.received (.worker index)).streams).sum ∧
        total < 2 ^ 64
  totalBytes : ∀ total,
    report.totalBytes = .ok total ↔
      total.toNat = (scenario.successful.map fun index =>
        (state.received (.worker index)).announced).sum
  counted : report.succeeded = scenario.successful.length
  failed : ∃ failed,
    report.failed = .ok failed ∧
      report.succeeded + failed = scenario.settings.workers.toNat
  shutdownSent : report.shutdownSent = true ↔
    ∃ actor, 1 ≤ (state.received actor).shutdowns
  shutdown : report.shutdownSent = true ↔ scenario.settings.shutdown = true

/-- What has been received on the connection of a worker when the run has ended
with a report. -/
theorem Reported.exists_amountsTo
    {scenario : Scenario Source}
    {state : State}
    {report : Report}
    {index : Nat}
    {result : Except SessionError SessionSummary}
    (reported : scenario.Reported state report)
    (reached : scenario.Reachable state)
    (inside : index < scenario.settings.workers.toNat)
    (returned : (scenario.record index).ending = .returned result)
    (connected : ∀ endpoint cause, result ≠ .error (.connect endpoint cause))
    (written : ∀ cause, result ≠ .error (.transmit cause)) :
    ∃ plan,
      (scenario.record index).plan = some plan ∧
        (state.received (.worker index)).AmountsTo plan.size
          plan.letterCount ∧
        ∀ summary, result = .ok summary ->
          summary.streams = plan.size ∧
            summary.bytes.toNat = plan.letterCount := by
  obtain ⟨plan, stream, planned, connection, amounts, summed⟩ :=
    (scenario.worked_record index).amountsTo_of_returned returned connected
      written
  refine ⟨plan, planned, ?_, summed⟩
  have acted := actionsBy_worker_of_allJoined (holds_of_reachable reached)
    reported.all inside
  rw [State.received, State.sentBy, acted,
    bytes_workerActions_of_connected planned connection]
  exact amounts

/-- A worker that succeeded reports what has been received. -/
theorem Reported.amountsTo_summary
    {scenario : Scenario Source}
    {state : State}
    {report : Report}
    {index : Nat}
    {summary : SessionSummary}
    (reported : scenario.Reported state report)
    (reached : scenario.Reachable state)
    (inside : index < scenario.settings.workers.toNat)
    (returned : (scenario.record index).ending = .returned (.ok summary)) :
    (state.received (.worker index)).AmountsTo summary.streams
      summary.bytes.toNat := by
  obtain ⟨plan, _, amounts, summed⟩ :=
    reported.exists_amountsTo reached inside returned nofun nofun
  obtain ⟨streams, bytes⟩ := summed summary rfl
  rw [streams, bytes]
  exact amounts

/-- The outcomes of a report are those of workers that returned. -/
theorem Reported.returned_of_mem
    {scenario : Scenario Source}
    {state : State}
    {report : Report}
    {outcome : Outcome}
    (reported : scenario.Reported state report)
    (member : outcome ∈ report.outcomes) :
    outcome.worker.toNat < scenario.settings.workers.toNat ∧
      (scenario.record outcome.worker.toNat).ending =
        .returned outcome.result := by
  obtain ⟨index, inside, worker, _, returned⟩ :=
    (reported.told.mem_outcomes outcome).mp member
  rw [worker]
  exact ⟨inside, returned⟩

/-- A shutdown has been received on some connection exactly when the settings
ask for one. -/
theorem Reported.exists_shutdown_iff
    {scenario : Scenario Source}
    {state : State}
    {report : Report}
    (reported : scenario.Reported state report)
    (reached : scenario.Reachable state) :
    (∃ actor, 1 ≤ (state.received actor).shutdowns) ↔
      scenario.settings.shutdown = true := by
  refine ⟨?_, ?_⟩
  · rintro ⟨actor, received⟩
    cases actor with
    | worker index =>
        have quiet := (holds_of_reachable reached).shutdowns_worker index
        rw [State.received, quiet] at received
        cases received
    | terminator =>
        by_contra stays
        have silent := reported.silent (eq_false_of_ne_true stays)
        rw [State.received, State.sentBy, silent, List.flatMap_nil,
          receive_nil] at received
        cases received
  · intro shutdown
    obtain ⟨succeeded, acted⟩ := reported.terminated shutdown
    obtain ⟨stream, connected, sent⟩ :=
      Settings.runTerminator_eq_ok_iff.mp succeeded
    have connection : scenario.terminator.connection = some stream := connected
    have whole : state.sentBy .terminator =
        Frame.encodeAll [.bare .shutdown] := by
      rw [State.sentBy, acted, terminatorActions,
        flatMap_bytes_connectionActions, connection, Option.map_some,
        Option.getD_some, sent]
      simp [Frame.encodeAll]
    refine ⟨.terminator, ?_⟩
    rw [State.received, whole, receive_encodeAll (by decide)]
    decide

/-- However the workers and their connections end, a report at the end of a
schedule agrees with what has been received. -/
theorem accounts_of_finished
    {scenario : Scenario Source}
    {state : State}
    {report : Report}
    (reached : scenario.Reachable state)
    (finished : state.phase = .finished (.finished report)) :
    scenario.Accounts state report := by
  have reported := reported_of_finished reached finished
  have amounts {index : Nat} {summary : SessionSummary}
      (inside : index < scenario.settings.workers.toNat)
      (returned : (scenario.record index).ending = .returned (.ok summary)) :=
    reported.amountsTo_summary reached inside returned
  have streams : report.summaries.map (fun summary => summary.streams) =
      scenario.successful.map fun index =>
        (state.received (.worker index)).streams :=
    map_summaries reported.outcomes fun _ inside _ returned =>
      (amounts inside returned).streams.symm
  have bytes : report.summaries.map (fun summary => summary.bytes.toNat) =
      scenario.successful.map fun index =>
        (state.received (.worker index)).announced :=
    map_summaries reported.outcomes fun _ inside _ returned =>
      (amounts inside returned).announced.symm
  have shutdown : report.shutdownSent = true ↔
      scenario.settings.shutdown = true := by
    rw [reported.shutdownSent]
  refine
    { succeeded := ?_
      unacknowledged := ?_
      totalStreams := ?_
      totalBytes := ?_
      counted := succeeded_eq_length_successful reported.outcomes
      failed := reported.told.exists_failed
      shutdownSent := shutdown.trans (reported.exists_shutdown_iff reached).symm
      shutdown }
  · intro outcome member summary succeeded
    obtain ⟨inside, returned⟩ := reported.returned_of_mem member
    rw [succeeded] at returned
    exact amounts inside returned
  · intro outcome member error failed waited
    obtain ⟨inside, returned⟩ := reported.returned_of_mem member
    obtain ⟨plan, planned, received, _⟩ := reported.exists_amountsTo reached
      inside returned (by rw [failed]; rintro _ _ ⟨⟩; cases waited)
      (by rw [failed]; rintro _ ⟨⟩; cases waited)
    exact ⟨plan, planned, received⟩
  · intro total
    rw [Report.totalStreams, streams,
      foldlM_checkedCount_eq_ok_iff (by decide), Nat.zero_add, eq_comm]
    rfl
  · intro total
    rw [Report.totalBytes, checkedSum_eq_ok_iff, List.map_map, eq_comm]
    rw [← bytes]
    rfl

/-- A run of two workers with one stream of one letter each, of which the second
finds its connection closed behind the hangup. -/
def halfClosed : Scenario KeyStream :=
  { paired closing with watched := fun _ => false }

/-- Each worker of the run sends its one letter and ends as its hangup is
answered. -/
theorem exists_conclude_halfClosed (index : Nat) :
    ∃ session : Session KeyStream,
      session.stream.incoming =
          (closing.reaction (halfClosed.settings.firstId index)).incoming ∧
        (halfClosed.record index).plan = some ⟨[1]⟩ ∧
        (halfClosed.record index).ending = .ofSession session.conclude.1 := by
  have page : PageSize.ofBytes halfClosed.settings.pageSize =
      .ok .standard := by rfl
  have narrow : (halfClosed.settings.firstId index).toNat + 1 ≤ 2 ^ 64 :=
    (halfClosed.settings.firstId index).toNat_lt
  have met : halfClosed.network (.worker (UInt64.ofNat index))
      (halfClosed.settings.firstId index) =
        Peer.connect (halfClosed.settings.firstId index)
          (.listening closing) := by rfl
  have announces : Settings.announce (halfClosed.watched .clientRunning)
      ⟨[1]⟩ = .ok () := by rfl
  obtain ⟨session, incoming, _, ran⟩ :=
    Settings.exists_conclude_of_takesAll Settings.draw_smallest
      Settings.yielded_smallest announces narrow (by decide) page met
      Script.takesAll_reliable
  exact ⟨session, incoming, congrArg WorkerRecord.plan ran,
    congrArg WorkerRecord.ending ran⟩

/-- The first worker succeeds, and the second is not acknowledged. -/
theorem endings_halfClosed :
    (∃ summary, (halfClosed.record 0).ending = .returned (.ok summary)) ∧
      (halfClosed.record 1).ending = .returned (.error .ackClosed) := by
  obtain ⟨first, hears, _, ended⟩ := exists_conclude_halfClosed 0
  obtain ⟨second, hearsToo, _, endedToo⟩ := exists_conclude_halfClosed 1
  refine ⟨?_, ?_⟩
  · obtain ⟨summary, succeeded⟩ := Session.conclude_of_byte hears
    exact ⟨summary, by rw [ended, succeeded]; rfl⟩
  · have closed : second.conclude.1 = .error (.failed .ackClosed) := by
      rw [Session.conclude_eq]
      unfold Stream.awaitByte
      rw [hearsToo]
      rfl
    rw [endedToo, closed]
    rfl

/-- The run comes to a report. -/
theorem exists_report_halfClosed :
    ∃ state report,
      halfClosed.Reachable state ∧
        state.phase = .finished (.finished report) := by
  obtain ⟨⟨summary, succeeded⟩, closed⟩ := endings_halfClosed
  have ends : ∀ index < halfClosed.settings.workers.toNat,
      (halfClosed.record index).ending ≠ .endless := by
    intro index inside
    obtain rfl | rfl : index = 0 ∨ index = 1 := by
      have bound : index < 2 := inside
      omega
    · rw [succeeded]
      nofun
    · rw [closed]
      nofun
  have assigns := Settings.assignments_of_room
    (show ∀ index < halfClosed.settings.workers.toNat,
      index * halfClosed.settings.idStride.toNat < 2 ^ 64 by decide)
  have terminated : halfClosed.terminator.ending = .ok () := by
    obtain ⟨stream, terminator, _⟩ := Settings.runTerminator_of_takesAll
      (KeyStream.seeded 2) (show halfClosed.network .terminator 0 = _ from rfl)
      Script.takesAll_reliable
      (show PageSize.ofBytes halfClosed.settings.pageSize = .ok .standard
        from rfl)
    exact congrArg TerminatorRecord.ending terminator
  obtain ⟨report, finished⟩ :=
    exists_report_of_ends assigns ends (fun _ => terminated) rfl
  obtain ⟨state, completed⟩ := halfClosed.exists_completed
  have phase := phase_of_completed completed assigns ends
    (by rw [terminated]; nofun)
  rw [finished] at phase
  exact ⟨state, report, completed.1, phase⟩

/-- The one stream of each worker has been received by then. -/
theorem streams_received_halfClosed
    {state : State}
    {report : Report}
    {index : Nat}
    (reached : halfClosed.Reachable state)
    (finished : state.phase = .finished (.finished report))
    (inside : index < 2) :
    (state.received (.worker index)).streams = 1 := by
  have reported := reported_of_finished reached finished
  obtain ⟨⟨summary, succeeded⟩, closed⟩ := endings_halfClosed
  obtain ⟨plan, planned, amounts⟩ : ∃ plan,
      (halfClosed.record index).plan = some plan ∧
        (state.received (.worker index)).AmountsTo plan.size
          plan.letterCount := by
    obtain rfl | rfl : index = 0 ∨ index = 1 := by omega
    · obtain ⟨plan, planned, amounts, _⟩ :=
        reported.exists_amountsTo reached inside succeeded nofun nofun
      exact ⟨plan, planned, amounts⟩
    · obtain ⟨plan, planned, amounts, _⟩ :=
        reported.exists_amountsTo reached inside closed nofun nofun
      exact ⟨plan, planned, amounts⟩
  obtain ⟨_, _, one, _⟩ := exists_conclude_halfClosed index
  rw [one] at planned
  cases planned
  exact amounts.streams

theorem accounts_halfClosed :
    ∃ state report,
      halfClosed.Reachable state ∧
        state.phase = .finished (.finished report) ∧
        halfClosed.Accounts state report ∧
        halfClosed.successful = [0] ∧
        report.totalStreams = .ok 1 ∧
        report.failed = .ok 1 ∧
        (state.received (.worker 1)).streams = 1 := by
  obtain ⟨state, report, reached, finished⟩ := exists_report_halfClosed
  have accounts := accounts_of_finished reached finished
  obtain ⟨⟨summary, succeeded⟩, closed⟩ := endings_halfClosed
  have successful : halfClosed.successful = [0] := by
    have indices : List.range halfClosed.settings.workers.toNat = [0, 1] := rfl
    rw [Scenario.successful, indices]
    simp [succeeded, closed, WorkerEnd.summary?]
  have received (index : Nat) (inside : index < 2) :=
    streams_received_halfClosed reached finished inside
  obtain ⟨failed, fails, all⟩ := accounts.failed
  rw [accounts.counted, successful] at all
  have one : failed = 1 := by
    have workers : halfClosed.settings.workers.toNat = 2 := rfl
    rw [workers, List.length_singleton] at all
    omega
  refine ⟨state, report, reached, finished, accounts, successful, ?_,
    one ▸ fails, received 1 (by decide)⟩
  apply (accounts.totalStreams 1).mpr
  rw [successful]
  simp [received]

end Scenario
end StreamLoad

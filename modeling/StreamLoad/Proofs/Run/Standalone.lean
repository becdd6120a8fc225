import StreamLoad.Proofs.Payload.Paging
import StreamLoad.Proofs.Run.Reported
import StreamLoad.Proofs.Run.Seeding
import StreamLoad.Proofs.Session.Undisturbed

/-!
# A worker and its session run alone

A worker of a seeded run draws its plan from its own source and gives the rest
of that source to its session. The same session can be run alone, over a stream
in memory that takes everything. It sends what the worker puts on its
connection, and it ends as the worker does if both hear the same behind their
hangups.
-/

namespace StreamLoad

/-- A worker stops at a write that fails, or at one that is interrupted for
ever. -/
def WorkerEnd.StopsWriting (script : Script) : WorkerEnd -> Prop
  | .returned (.error (.transmit _)) => True
  | .endless => ¬script.Settles
  | _ => False

namespace Session

variable {Source : Type} [WordSource Source]

/-- A session that does not stop at a write has written its dictation to the
end. -/
theorem exists_ranWhole_of_not_stopsWriting
    {session : Session Source}
    (writes : ¬(WorkerEnd.ofSession session.run.1).StopsWriting
      session.stream.script) :
    ∃ after, session.RanWhole after := by
  rcases session.run_cases with ⟨after, _, ran⟩ | ⟨stop, after, writing, ran⟩
  · exact ⟨after, ran⟩
  · rw [ran] at writes
    cases writing with
    | cut => exact absurd trivial writes
    | interrupted _ _ _ unsettled => exact absurd unsettled writes

/-- Over a stream that takes everything no session stops at a write. -/
theorem not_stopsWriting_of_takesAll
    {session : Session Source}
    (takesAll : session.stream.script.TakesAll) :
    ¬(WorkerEnd.ofSession session.run.1).StopsWriting
      session.stream.script := by
  have settled := not_not_intro takesAll.settles
  obtain ⟨after, ran⟩ := exists_ranWhole_of_takesAll takesAll
  rw [ran.result]
  cases session.dictation.ending with
  | error halt =>
      cases halt with
      | fault fault => exact id
      | endless => exact settled
  | ok progress =>
      dsimp only
      cases concluded : (session.resume progress after).conclude.1 with
      | ok summary => exact id
      | error stop =>
          cases ackStop_of_conclude concluded with
          | closed => exact id
          | read cause => exact id
          | expired limit => exact id
          | endless => exact settled

end Session

namespace Scenario

open Schedule

/-- A session run alone does what a worker does that has met some counterpart.
At every moment of a schedule the worker has sent a beginning of what the
session sends. It sends all of that in the end, unless it stops at a write,
which it does not if its counterpart takes everything. If moreover the session
hears what the worker hears behind the hangup, the worker ends as the session
does, and a report tells this of it. -/
structure AgreesWith
    {Source : Type} [WordSource Source]
    (scenario : Scenario Source)
    (state : State)
    (worker : Nat)
    (counterpart : Counterpart)
    (session : Session Source) : Prop where
  writes : counterpart.script.TakesAll ->
    ¬(scenario.record worker).ending.StopsWriting counterpart.script
  begun : state.sentBy (.worker worker) <+: session.run.2.sent
  sent : ¬(scenario.record worker).ending.StopsWriting counterpart.script ->
    (∃ task, state.tasks[worker]? = some task ∧ task.remaining = []) ->
      state.sentBy (.worker worker) = session.run.2.sent
  ending : ¬(scenario.record worker).ending.StopsWriting counterpart.script ->
    (session.stream.awaitByte session.ackTimeout).1 =
        (counterpart.stream.awaitByte session.ackTimeout).1 ->
      (scenario.record worker).ending = .ofSession session.run.1
  reported : ¬(scenario.record worker).ending.StopsWriting counterpart.script ->
    (session.stream.awaitByte session.ackTimeout).1 =
        (counterpart.stream.awaitByte session.ackTimeout).1 ->
      ∀ report, state.phase = .finished (.finished report) ->
        state.sentBy (.worker worker) = session.run.2.sent ∧
          ∃ result,
            WorkerEnd.ofSession session.run.1 = .returned result ∧
              ∀ outcome,
                outcome ∈ report.outcomes ∧
                    outcome.worker.toNat = worker ↔
                  outcome =
                    { worker := UInt64.ofNat worker
                      idPrefix := session.idPrefix
                      result }

section

variable {Source : Type} [WordSource Source]

/-- A session over the worker's own connection, and the same one run alone. -/
theorem agreesWith_of_session
    {scenario : Scenario Source}
    {state : State}
    {worker : Nat}
    {task : Task}
    {idPrefix : UInt64}
    {plan : Plan}
    {later : Source}
    {counterpart : Counterpart}
    {session alone : Session Source}
    {memory : Script}
    {incoming : List ReadItem}
    (reached : scenario.Reachable state)
    (found : state.tasks[worker]? = some task)
    (planned : task.record.plan = some plan)
    (connected : task.record.connection = some session.run.2)
    (ended : task.record.ending = .ofSession session.run.1)
    (unfaulted : task.record.ending.isAborted = false)
    (idIs : idPrefix = scenario.settings.firstId worker)
    (started : Session.start counterpart.stream idPrefix plan later
      scenario.settings.sessionOptions = .ok session)
    (startedAlone : Session.start (.start memory incoming) idPrefix plan later
      scenario.settings.sessionOptions = .ok alone)
    (takesAll : memory.TakesAll) :
    scenario.AgreesWith state worker counterpart alone := by
  have taskHolds := (holds_of_reachable reached).tasks worker task found
  have recordIs := taskHolds.record_eq
  have fresh := Session.startedWith_of_start started
  have script : session.stream.script = counterpart.script := by
    rw [fresh.stream]
    rfl
  obtain rfl : alone = session.withStream (.start memory incoming) := by
    rw [Session.start_withStream counterpart.stream, started] at startedAlone
    exact (Except.ok.inj startedAlone).symm
  have unsent : session.stream.sent = [] := by
    rw [fresh.stream]
    rfl
  have unsentAlone : (Stream.start memory incoming).sent = [] := rfl
  obtain ⟨begun, whole⟩ :=
    session.sent_withStream_of_takesAll unsent unsentAlone takesAll
  obtain ⟨sent, allSent⟩ := taskHolds.sentBy_of_connected planned connected
  rw [recordIs] at ended
  have ranWhole (writes : ¬(scenario.record worker).ending.StopsWriting
      counterpart.script) : ∃ after, session.RanWhole after := by
    rw [ended, ← script] at writes
    exact Session.exists_ranWhole_of_not_stopsWriting writes
  have endsAlike (after : Stream) (ran : session.RanWhole after)
      (hears : (Stream.awaitByte session.ackTimeout
        (.start memory incoming)).1 =
          (counterpart.stream.awaitByte session.ackTimeout).1) :
      (session.withStream (.start memory incoming)).run.1 = session.run.1 := by
    rw [← fresh.stream] at hears
    exact ran.result_withStream takesAll hears
  refine ⟨?_, sent.trans begun, ?_, ?_, ?_⟩
  · intro all
    rw [ended, ← script]
    exact Session.not_stopsWriting_of_takesAll (script ▸ all)
  · rintro writes ⟨same, alike, done⟩
    obtain ⟨after, ran⟩ := ranWhole writes
    rw [found] at alike
    cases alike
    rw [allSent done, whole after ran]
  · intro writes hears
    obtain ⟨after, ran⟩ := ranWhole writes
    rw [ended, endsAlike after ran hears]
  · intro writes hears report finished
    obtain ⟨after, ran⟩ := ranWhole writes
    have reported := reported_of_finished reached finished
    have done := (holds_of_reachable reached).ended_of_allJoined reported.all
      task (List.mem_of_getElem? found)
    refine ⟨by rw [allSent done.2.1, whole after ran], ?_⟩
    obtain ⟨result, returned⟩ := WorkerEnd.exists_returned
      (recordIs ▸ unfaulted) (reported.ends worker taskHolds.inside)
    rw [endsAlike after ran hears, ← ended]
    refine ⟨result, returned, ?_⟩
    intro outcome
    change _ ↔ outcome =
      { worker := UInt64.ofNat worker, idPrefix := session.idPrefix, result }
    rw [fresh.idPrefix, idIs]
    exact reported.mem_iff taskHolds.inside returned outcome

end

/-- For every configuration with a seed, whatever the network does and in
whatever order the steps are taken, a worker that connects and is not cut off by
a fault agrees with the session for its plan run alone: the session whose source
is that of the seed plus the index, behind the plan that was drawn from it,
whose ids begin at the index times the stride, and whose options are the
configured ones. -/
theorem agreesWith_of_connected
    {settings : Settings}
    {watched : Event -> Bool}
    {network : Network}
    {entropy : UInt64 -> KeyStream}
    {seed : UInt64}
    {state : State}
    {worker : Nat}
    {task : Task}
    {stream : Stream}
    (seeded : settings.seed = some seed)
    (reached : (settings.scenario watched network entropy).Reachable state)
    (found : state.tasks[worker]? = some task)
    (connected : task.record.connection = some stream)
    (unfaulted : task.record.ending.isAborted = false) :
    ∃ plan later idPrefix counterpart,
      Plan.draw settings.limits
            (KeyStream.seeded (seed + UInt64.ofNat worker)) =
          (.ok plan, later) ∧
        idPrefix.toNat = worker * settings.idStride.toNat ∧
        network (.worker (UInt64.ofNat worker)) idPrefix = .ok counterpart ∧
        ∀ memory incoming, memory.TakesAll ->
          ∃ alone : Session KeyStream,
            Session.start (.start memory incoming) idPrefix plan later
                settings.sessionOptions = .ok alone ∧
              alone.pageSize.bytes = settings.pageSize ∧
              (settings.scenario watched network entropy).AgreesWith state
                worker counterpart alone := by
  have taskHolds := (holds_of_reachable reached).tasks worker task found
  obtain ⟨idPrefix, assigned, record⟩ := taskHolds.record
  obtain ⟨room, idIs⟩ :=
    (Settings.idPrefix_eq_ok_iff taskHolds.inside).mp assigned
  have worked := settings.runWorker_worked (watched .clientRunning) network
    (UInt64.ofNat worker) idPrefix
    (settings.sourceOf entropy (UInt64.ofNat worker))
  change settings.Worked _ _ _ _ ((settings.scenario watched network
    entropy).worker (UInt64.ofNat worker) idPrefix) at worked
  rw [← record] at worked
  obtain ⟨plan, later, counterpart, session, drawn, planned, met, started, rfl,
    ended⟩ := worked.exists_session connected unfaulted
  rw [Settings.sourceOf, seeded] at drawn
  have idValue : idPrefix.toNat = worker * settings.idStride.toNat := by
    rw [idIs]
    exact UInt64.toNat_ofNat_of_lt' room
  refine ⟨plan, later, idPrefix, counterpart, drawn, idValue, met, ?_⟩
  intro memory incoming takesAll
  have startedAlone := Session.start_withStream counterpart.stream
    (.start memory incoming) idPrefix plan later settings.sessionOptions
  rw [started] at startedAlone
  exact ⟨_, startedAlone,
    PageSize.bytes_of_ofBytes (Session.startedWith_of_start started).pageSize,
    agreesWith_of_session reached found planned connected ended unfaulted idIs
      started startedAlone takesAll⟩

/-- A worker with one stream of one letter and the session for that stream, over
a stream in memory that takes three bytes at a time and is interrupted once. -/
theorem agreesWith_smallest :
    Settings.smallest.seed = some 2 ∧
      ∃ state task stream,
        (Settings.smallest.scenario (fun _ => true)
            (Peer.listening .obliging).network .seeded).Reachable state ∧
          state.tasks[0]? = some task ∧
          task.record.connection = some stream ∧
          task.record.ending.isAborted = false ∧
          ∃ alone : Session KeyStream,
            Session.start
                (.start
                  { Script.reliable with
                    writeCap := some 3
                    writeFaults := [(1, .ofKind .interrupted)] }
                  [.byte 1])
                0 ⟨[1]⟩ (WordSource.skip 4 (KeyStream.seeded 2))
                Settings.smallest.sessionOptions = .ok alone ∧
              state.sentBy (.worker 0) = alone.run.2.sent ∧
              task.record.ending = .ofSession alone.run.1 := by
  obtain ⟨state, unhindered⟩ :=
    exists_unhindered .obliging
      (show Settings.smallest.limits = Settings.smallest.limits from rfl)
      (show Settings.smallest.sourceOf .seeded (UInt64.ofNat 0) = .seeded 2
        from rfl)
      (by decide) (by decide)
      (show PageSize.ofBytes Settings.smallest.pageSize = .ok .standard
        from rfl)
  obtain ⟨reached, ⟨task, found, done⟩, ⟨stream, connected, _⟩, unfaulted⟩ :=
    unhindered
  have recordIs :=
    ((holds_of_reachable reached).tasks 0 task found).record_eq
  rw [← recordIs] at connected unfaulted
  have takesAll : ({ Script.reliable with
      writeCap := some 3
      writeFaults := [(1, .ofKind .interrupted)] } : Script).TakesAll :=
    Script.takesAll_of_interruptions (by decide) (by decide) rfl
  obtain ⟨plan, later, idPrefix, counterpart, drawn, idIs, met, agrees⟩ :=
    agreesWith_of_connected rfl reached found connected unfaulted
  have drawnToo := Settings.draw_smallest.symm.trans drawn
  cases drawnToo
  obtain rfl : idPrefix = 0 := UInt64.toNat_inj.mp (idIs.trans (Nat.zero_mul _))
  obtain ⟨alone, started, _, agrees⟩ := agrees _ [.byte 1] takesAll
  cases met
  have writes := agrees.writes Script.takesAll_reliable
  refine ⟨rfl, state, task, stream, reached, found, connected, unfaulted, alone,
    started, agrees.sent writes ⟨task, found, done⟩, ?_⟩
  rw [recordIs]
  apply agrees.ending writes
  rw [(Session.startedWith_of_start started).stream]
  rfl

end Scenario
end StreamLoad

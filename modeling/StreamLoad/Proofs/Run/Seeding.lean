import Mathlib.Data.List.Forall2
import StreamLoad.Program
import StreamLoad.Proofs.Run.CompletionOrder
import StreamLoad.Proofs.Run.Progress
import StreamLoad.Proofs.Run.Barrier
import StreamLoad.Proofs.Session.Unbroken

/-!
# What a seed decides

The seed of a run and the index of a worker add up to the seed of the worker.
With the limits of a plan, that sum decides what the worker sends, but for the
ids, which begin at its first one. Nothing else decides it: not the number of
workers, the stride, the size of a page, the wait for an acknowledgment, the
shutdown, the order of the steps or what comes back.
-/

namespace StreamLoad

/-- The second frame is the first, with the id of a data frame moved from one
first id to another. -/
structure Frame.ShiftedBy
    (firstId secondId : Nat)
    (first second : Frame) : Prop where
  body : second.body = first.body
  header : second.header = { first.header with id := second.header.id }
  data : first.header.command = .data ->
    second.header.id.toNat + firstId = first.header.id.toNat + secondId
  bare : first.header.command ≠ .data -> second = first

namespace Plan

variable {Source : Type} [WordSource Source]

/-- From one source the frames of two first ids differ in their ids only. -/
theorem shiftedBy_framesFrom
    {firstPrefix secondPrefix : UInt64}
    {index : Nat}
    {lengths : List UInt64}
    {source : Source}
    (room : firstPrefix.toNat + index +
      (framesFrom firstPrefix index lengths source).length ≤ 2 ^ 64)
    (roomToo : secondPrefix.toNat + index +
      (framesFrom secondPrefix index lengths source).length ≤ 2 ^ 64) :
    List.Forall₂ (Frame.ShiftedBy firstPrefix.toNat secondPrefix.toNat)
      (framesFrom firstPrefix index lengths source)
      (framesFrom secondPrefix index lengths source) := by
  induction lengths generalizing index source with
  | nil => exact .nil
  | cons length lengths hypothesis =>
      cases drawn : letters length.toNat source with
      | none => simp [framesFrom, drawn]
      | some result =>
          obtain ⟨body, rest⟩ := result
          rw [framesFrom_of_letters drawn, List.length_cons] at room roomToo
          rw [framesFrom_of_letters drawn, framesFrom_of_letters drawn]
          refine .cons ⟨rfl, rfl, ?_, ?_⟩
            (hypothesis (by omega) (by omega))
          · intro _
            simp only [Header.data, UInt64.toNat_add, UInt64.toNat_ofNat']
            omega
          · intro notData
            exact absurd rfl notData

theorem shiftedBy_completed
    {plan : Plan}
    {firstPrefix secondPrefix : UInt64}
    {source : Source}
    (room : firstPrefix.toNat + (plan.frames firstPrefix source).length ≤
      2 ^ 64)
    (roomToo : secondPrefix.toNat +
      (plan.frames secondPrefix source).length ≤ 2 ^ 64) :
    List.Forall₂ (Frame.ShiftedBy firstPrefix.toNat secondPrefix.toNat)
      (plan.completed firstPrefix source)
      (plan.completed secondPrefix source) := by
  have streams : List.Forall₂ _ (plan.frames firstPrefix source)
      (plan.frames secondPrefix source) := shiftedBy_framesFrom room roomToo
  unfold completed
  split
  · refine List.rel_append streams (.cons ⟨rfl, rfl, ?_, fun _ => rfl⟩ .nil)
    rintro ⟨⟩
  · rw [List.append_nil, List.append_nil]
    exact streams

/-- When all letters are drawn, a frame for each stream and a hangup are
completed. -/
theorem length_completed
    {plan : Plan}
    {source : Source}
    (yielded : plan.YieldedBy source)
    (idPrefix : UInt64) :
    (plan.completed idPrefix source).length = plan.size + 1 := by
  have streams : (plan.frames idPrefix source).length = plan.size :=
    (transcriptFrom_eq_encodeAll yielded idPrefix 0).1
  unfold YieldedBy at yielded
  rw [completed, if_pos yielded, List.length_append, streams]
  rfl

end Plan

namespace Settings

variable {Source : Type} [WordSource Source]

/-- A worker that has connected and is not cut off by a fault has run a session
for the plan that it has drawn. -/
theorem Worked.exists_session
    {settings : Settings}
    {network : Network}
    {worker idPrefix : UInt64}
    {source : Source}
    {record : WorkerRecord}
    {stream : Stream}
    (worked : settings.Worked network worker idPrefix source record)
    (connected : record.connection = some stream)
    (unfaulted : record.ending.isAborted = false) :
    ∃ plan later counterpart,
      ∃ session : Session Source,
        Plan.draw settings.limits source = (.ok plan, later) ∧
          record.plan = some plan ∧
          network (.worker worker) idPrefix = .ok counterpart ∧
          Session.start counterpart.stream idPrefix plan later
              settings.sessionOptions = .ok session ∧
          stream = session.run.2 ∧
          record.ending = .ofSession session.run.1 := by
  cases worked with
  | unplanned ending cutOff => cases connected
  | unconnected plan cause met => cases connected
  | unstarted plan counterpart fault met => cases unfaulted
  | conducted plan later counterpart session drawn met started =>
      cases connected
      exact ⟨plan, later, counterpart, session, drawn, rfl, met, started, rfl,
        rfl⟩

/-- What is received from a worker none of whose writes fails and that no fault
cuts off. -/
theorem exists_completed_of_unbroken
    {settings : Settings}
    {network : Network}
    {worker idPrefix : UInt64}
    {source : Source}
    {record : WorkerRecord}
    {stream : Stream}
    (worked : settings.Worked network worker idPrefix source record)
    (connected : record.connection = some stream)
    (unbroken : stream.Unbroken)
    (unfaulted : record.ending.isAborted = false) :
    ∃ plan later,
      Plan.draw settings.limits source = (.ok plan, later) ∧
        record.plan = some plan ∧
        (receive stream.sent).frames = plan.completed idPrefix later ∧
        idPrefix.toNat + (plan.frames idPrefix later).length ≤ 2 ^ 64 ∧
        (record.ending ≠ .endless -> plan.YieldedBy later) := by
  obtain ⟨plan, later, counterpart, session, drawn, planned, _, started, rfl,
    ended⟩ := worked.exists_session connected unfaulted
  rw [ended] at unfaulted ⊢
  have fresh := Session.startedWith_of_start started
  have small : session.plan.size ≤ 2 ^ 64 := by
    rw [fresh.plan]
    exact Plan.size_le_of_draw drawn
  obtain ⟨sent, halts⟩ := Session.dictated_of_unbroken unbroken
  have dictated : ∀ fault,
      session.dictation.ending ≠ .error (.fault fault) := by
    intro fault ending
    rw [halts _ ending] at unfaulted
    cases unfaulted
  obtain ⟨frames, room, endless⟩ :=
    Session.frames_receive_dictation small dictated
  have unsent : session.stream.sent = [] := by
    rw [fresh.stream]
    rfl
  rw [unsent, List.nil_append] at sent
  rw [fresh.plan, fresh.idPrefix, fresh.source] at frames room
  rw [fresh.plan, fresh.source] at endless
  refine ⟨plan, later, drawn, planned, sent ▸ frames, room, ?_⟩
  intro ends
  by_contra never
  rw [halts _ (endless never)] at ends
  exact ends rfl

/-- The run that the program makes of some settings. -/
def scenario
    (settings : Settings)
    (watched : Event -> Bool)
    (network : Network)
    (entropy : UInt64 -> KeyStream) : Scenario KeyStream :=
  { settings, watched, network, sourceOf := settings.sourceOf entropy }

end Settings

namespace Scenario

open Schedule

/-- At some moment of a schedule a worker has done all that it does, none of
its writes has failed, and no fault has cut it off. -/
structure Unhindered
    {Source : Type} [WordSource Source]
    (scenario : Scenario Source)
    (state : State)
    (worker : Nat) : Prop where
  reached : scenario.Reachable state
  done : ∃ task, state.tasks[worker]? = some task ∧ task.remaining = []
  written : ∃ stream,
    (scenario.record worker).connection = some stream ∧ stream.Unbroken
  unfaulted : (scenario.record worker).ending.isAborted = false

/-- Two workers send the same streams, each with ids from its own first one on.
If one of them ends, these are all streams of the plan that both have drawn,
and a hangup. -/
structure SendSameStreams
    {Source : Type} [WordSource Source]
    (first second : Scenario Source)
    (firstState secondState : State)
    (firstWorker secondWorker : Nat) : Prop where
  frames : List.Forall₂
    (Frame.ShiftedBy (firstWorker * first.settings.idStride.toNat)
      (secondWorker * second.settings.idStride.toNat))
    (receive (firstState.sentBy (.worker firstWorker))).frames
    (receive (secondState.sentBy (.worker secondWorker))).frames
  plan : ∃ plan,
    (first.record firstWorker).plan = some plan ∧
      (second.record secondWorker).plan = some plan ∧
      ((first.record firstWorker).ending ≠ .endless ∨
          (second.record secondWorker).ending ≠ .endless ->
        (receive (firstState.sentBy (.worker firstWorker))).frames.length =
          plan.size + 1)

section

variable {Source : Type} [WordSource Source]

/-- What is received from a worker that has done all it does unhindered. -/
theorem Unhindered.exists_completed
    {scenario : Scenario Source}
    {state : State}
    {worker : Nat}
    (unhindered : scenario.Unhindered state worker) :
    ∃ plan later idPrefix,
      idPrefix.toNat = worker * scenario.settings.idStride.toNat ∧
        Plan.draw scenario.settings.limits
            (scenario.sourceOf (UInt64.ofNat worker)) = (.ok plan, later) ∧
        (scenario.record worker).plan = some plan ∧
        (receive (state.sentBy (.worker worker))).frames =
          plan.completed idPrefix later ∧
        idPrefix.toNat + (plan.frames idPrefix later).length ≤ 2 ^ 64 ∧
        ((scenario.record worker).ending ≠ .endless ->
          plan.YieldedBy later) := by
  obtain ⟨reached, ⟨task, found, remaining⟩, ⟨stream, connected, unbroken⟩,
    unfaulted⟩ := unhindered
  have taskHolds := (holds_of_reachable reached).tasks worker task found
  obtain ⟨idPrefix, assigned, _⟩ := taskHolds.record
  obtain ⟨room, rfl⟩ :=
    (Settings.idPrefix_eq_ok_iff taskHolds.inside).mp assigned
  obtain ⟨plan, later, drawn, planned, frames, ids, ends⟩ :=
    Settings.exists_completed_of_unbroken
      (scenario.settings.runWorker_worked (scenario.watched .clientRunning)
        scenario.network (UInt64.ofNat worker)
        (scenario.settings.firstId worker)
        (scenario.sourceOf (UInt64.ofNat worker)))
      connected unbroken unfaulted
  have acted := taskHolds.acted
  rw [remaining, List.append_nil, taskHolds.record_eq] at acted
  have sent : state.sentBy (.worker worker) = stream.sent := by
    rw [State.sentBy, acted, workerActions, List.flatMap_cons]
    rw [show (scenario.record worker).plan = some plan from planned]
    dsimp only
    rw [flatMap_bytes_connectionActions, connected]
    rfl
  exact ⟨plan, later, scenario.settings.firstId worker,
    UInt64.toNat_ofNat_of_lt' room, drawn, planned, sent ▸ frames, ids, ends⟩

/-- Workers with plans of the same limits and sources that are the same send
the same streams. -/
theorem sendSameStreams_of_source
    {first second : Scenario Source}
    {firstState secondState : State}
    {firstWorker secondWorker : Nat}
    (limits : second.settings.limits = first.settings.limits)
    (source : second.sourceOf (UInt64.ofNat secondWorker) =
      first.sourceOf (UInt64.ofNat firstWorker))
    (unhindered : first.Unhindered firstState firstWorker)
    (unhinderedToo : second.Unhindered secondState secondWorker) :
    first.SendSameStreams second firstState secondState firstWorker
      secondWorker := by
  obtain ⟨plan, later, firstPrefix, firstId, drawn, planned, frames, room,
    ends⟩ := unhindered.exists_completed
  obtain ⟨_, _, secondPrefix, secondId, drawnToo, plannedToo, framesToo,
    roomToo, endsToo⟩ := unhinderedToo.exists_completed
  rw [limits, source, drawn] at drawnToo
  cases drawnToo
  refine ⟨?_, plan, planned, plannedToo, ?_⟩
  · rw [frames, framesToo, ← firstId, ← secondId]
    exact Plan.shiftedBy_completed room roomToo
  · intro ended
    rw [frames]
    exact Plan.length_completed (ended.elim ends endsToo) firstPrefix

end

/-- A worker of one run and a worker of another send the same streams if the
limits of their plans are the same and each seed and index add up to the same
word, whatever else is different. -/
theorem sendSameStreams_of_seeds
    {first second : Settings}
    {watched watchedToo : Event -> Bool}
    {network networkToo : Network}
    {entropy entropyToo : UInt64 -> KeyStream}
    {firstState secondState : State}
    {firstWorker secondWorker : Nat}
    {firstSeed secondSeed : UInt64}
    (limits : second.limits = first.limits)
    (seeded : first.seed = some firstSeed)
    (seededToo : second.seed = some secondSeed)
    (sum : firstSeed + UInt64.ofNat firstWorker =
      secondSeed + UInt64.ofNat secondWorker)
    (unhindered : (first.scenario watched network entropy).Unhindered
      firstState firstWorker)
    (unhinderedToo :
      (second.scenario watchedToo networkToo entropyToo).Unhindered
        secondState secondWorker) :
    (first.scenario watched network entropy).SendSameStreams
      (second.scenario watchedToo networkToo entropyToo) firstState
      secondState firstWorker secondWorker := by
  refine sendSameStreams_of_source limits ?_ unhindered unhinderedToo
  simp only [Settings.scenario, Settings.sourceOf, seeded, seededToo, sum]

/-- A worker with one stream of one letter is unhindered by a server that takes
everything, whatever comes back. -/
theorem exists_unhindered
    {settings : Settings}
    {entropy : UInt64 -> KeyStream}
    {worker : Nat}
    {pageSize : PageSize}
    (server : Server)
    (limits : settings.limits = Settings.smallest.limits)
    (source : settings.sourceOf entropy (UInt64.ofNat worker) = .seeded 2)
    (inside : worker < settings.workers.toNat)
    (room : ∀ index < settings.workers.toNat,
      index * settings.idStride.toNat < 2 ^ 64)
    (page : PageSize.ofBytes settings.pageSize = .ok pageSize) :
    ∃ state, (settings.scenario (fun _ => true)
      (Peer.listening server).network entropy).Unhindered state worker := by
  obtain ⟨state, completed⟩ := exists_completed (settings.scenario
    (fun _ => true) (Peer.listening server).network entropy)
  have assigns := Settings.assignments_of_room room
  have drawn : Plan.draw settings.limits
      (settings.sourceOf entropy (UInt64.ofNat worker)) =
        (.ok ⟨[1]⟩, WordSource.skip 4 (KeyStream.seeded 2)) := by
    rw [limits, source]
    exact Settings.draw_smallest
  have announces : Settings.announce true ⟨[1]⟩ = .ok () := by rfl
  have narrow : (settings.firstId worker).toNat + 1 ≤ 2 ^ 64 :=
    (settings.firstId worker).toNat_lt
  have met : (Peer.listening server).network (.worker (UInt64.ofNat worker))
      (settings.firstId worker) =
        Peer.connect (settings.firstId worker) (.listening server) := by rfl
  obtain ⟨session, _, script, ran⟩ :=
    Settings.exists_conclude_of_takesAll drawn Settings.yielded_smallest
      announces narrow (by decide) page met Script.takesAll_reliable
  have takesAll : session.stream.script.TakesAll :=
    script ▸ Script.takesAll_reliable
  refine ⟨state, completed.1, exists_done_of_completed completed assigns inside,
    ⟨session.conclude.2, congrArg WorkerRecord.connection ran,
      session.writesAlike_conclude.unbroken (.of_takesAll takesAll)⟩, ?_⟩
  have ended : ((settings.scenario (fun _ => true)
      (Peer.listening server).network entropy).record worker).ending =
        .ofSession session.conclude.1 := congrArg WorkerRecord.ending ran
  rw [ended]
  cases concluded : session.conclude.1 with
  | ok summary => rfl
  | error stop => cases Session.ackStop_of_conclude concluded <;> rfl

/-- Settings unlike the smallest ones in everything but the limits of a plan,
with a seed one less. -/
def unlike : Settings :=
  { Settings.smallest with
    workers := 2
    idStride := 7
    seed := some 1
    pageSize := 1
    ackTimeout := some (.ofMilliseconds 5)
    shutdown := false }

theorem sendSameStreams_unlike :
    unlike.limits = Settings.smallest.limits ∧
      (2 : UInt64) + UInt64.ofNat 0 = 1 + UInt64.ofNat 1 ∧
      ∃ firstState secondState,
        (Settings.smallest.scenario (fun _ => true)
            (Peer.listening .obliging).network .seeded).Unhindered
          firstState 0 ∧
        (unlike.scenario (fun _ => true)
            (Peer.listening ⟨[], .close⟩).network .seeded).Unhindered
          secondState 1 ∧
        (Settings.smallest.scenario (fun _ => true)
            (Peer.listening .obliging).network .seeded).SendSameStreams
          (unlike.scenario (fun _ => true)
            (Peer.listening ⟨[], .close⟩).network .seeded)
          firstState secondState 0 1 := by
  have sum : (2 : UInt64) + UInt64.ofNat 0 = 1 + UInt64.ofNat 1 := by decide
  obtain ⟨firstState, unhindered⟩ :=
    exists_unhindered .obliging
      (show Settings.smallest.limits = Settings.smallest.limits from rfl)
      (show Settings.smallest.sourceOf .seeded (UInt64.ofNat 0) = .seeded 2
        from rfl)
      (by decide) (by decide)
      (show PageSize.ofBytes Settings.smallest.pageSize = .ok .standard
        from rfl)
  obtain ⟨page, isPage⟩ : ∃ page,
      PageSize.ofBytes unlike.pageSize = .ok page := ⟨_, rfl⟩
  obtain ⟨secondState, unhinderedToo⟩ :=
    exists_unhindered ⟨[], .close⟩
      (show unlike.limits = Settings.smallest.limits from rfl)
      (show unlike.sourceOf .seeded (UInt64.ofNat 1) = .seeded 2 from rfl)
      (by decide) (by decide) isPage
  exact ⟨rfl, sum, firstState, secondState, unhindered, unhinderedToo,
    sendSameStreams_of_seeds rfl rfl rfl sum unhindered unhinderedToo⟩

end Scenario
end StreamLoad

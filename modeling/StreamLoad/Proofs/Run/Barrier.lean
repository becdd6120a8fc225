import StreamLoad.Proofs.Run.Progress
import StreamLoad.Proofs.Run.Terminator
import StreamLoad.Proofs.Run.Worker

/-!
# The shutdown waits for the workers

In whatever order the steps of a run are taken, nothing is done for the
shutdown before every worker has ended and been joined, however it ended. No
worker sends a shutdown, and the run itself sends no more than one. Every
schedule comes to an end, and a worker that fails does not keep the shutdown
from being tried.
-/

namespace StreamLoad

namespace Schedule

/-- A task that comes to connect tries to. -/
theorem exists_connect_mem (connection : Option Stream) :
    ∃ made, .connect made ∈ connectionActions connection := by
  cases connection with
  | none => exact ⟨false, List.mem_cons_self⟩
  | some stream =>
      exact ⟨true, List.mem_append_left _ (List.mem_append_left _
        List.mem_cons_self)⟩

theorem flatMap_bytes_replicate
    {action : Action}
    (silent : action.bytes = [])
    (count : Nat) :
    (List.replicate count action).flatMap Action.bytes = [] := by
  apply List.flatMap_eq_nil_iff.mpr
  intro other member
  rw [List.eq_of_mem_replicate member, silent]

/-- A task puts on its connection what the connection has accepted. -/
theorem flatMap_bytes_connectionActions (connection : Option Stream) :
    (connectionActions connection).flatMap Action.bytes =
      (connection.map Stream.sent).getD [] := by
  cases connection with
  | none => rfl
  | some stream =>
      have writes : (stream.accepted.toList.map Action.write).flatMap
          Action.bytes = stream.sent := by
        rw [List.flatMap_map]
        exact List.flatMap_id
      rw [connectionActions, List.flatMap_append, List.flatMap_append,
        List.flatMap_cons, writes, flatMap_bytes_replicate rfl,
        flatMap_bytes_replicate rfl, List.append_nil, List.append_nil]
      rfl

theorem State.sentBy_begun
    {state : State}
    {actor : Actor}
    {remaining actions : List Action}
    (acted : state.actionsBy actor ++ remaining = actions) :
    state.sentBy actor <+: actions.flatMap Action.bytes := by
  rw [← acted, List.flatMap_append]
  exact List.prefix_append _ _

end Schedule

namespace Scenario

open Schedule

variable {Source : Type} [WordSource Source]

/-- A shutdown that has begun found every worker joined. -/
theorem Holds.allJoined_of_acted
    {scenario : Scenario Source}
    {state : State}
    (holds : scenario.Holds state)
    (acted : state.actionsBy .terminator ≠ []) :
    scenario.AllJoined state := by
  have phaseHolds := holds.phase
  unfold PhaseHolds at phaseHolds
  cases phase : state.phase with
  | spawning next =>
      rw [phase] at phaseHolds
      exact absurd phaseHolds.2.2 acted
  | joining =>
      rw [phase] at phaseHolds
      exact absurd phaseHolds.2 acted
  | terminating remaining =>
      rw [phase] at phaseHolds
      exact phaseHolds.1
  | finished ending =>
      rw [phase] at phaseHolds
      rcases phaseHolds with ⟨_, silent⟩ | ⟨all, _⟩
      · exact absurd silent acted
      · exact all

/-- What a worker does sends a beginning of frames without a shutdown. -/
theorem exists_frames_of_workerActions
    {settings : Settings}
    {network : Network}
    {worker idPrefix : UInt64}
    {source : Source}
    {record : WorkerRecord}
    (worked : settings.Worked network worker idPrefix source record) :
    ∃ frames,
      (∀ frame ∈ frames,
        frame.WellFormed ∧ frame.header.command ≠ .shutdown) ∧
      (workerActions record).flatMap Action.bytes <+:
        Frame.encodeAll frames := by
  rw [workerActions, List.flatMap_cons]
  cases record.plan with
  | none => exact ⟨[], nofun, List.prefix_rfl⟩
  | some plan =>
      dsimp only
      rw [flatMap_bytes_connectionActions]
      cases connection : record.connection with
      | none => exact ⟨[], nofun, List.prefix_rfl⟩
      | some stream =>
          exact Settings.exists_frames_of_worked worked connection

/-- No worker sends a shutdown. -/
theorem Holds.shutdowns_worker
    {scenario : Scenario Source}
    {state : State}
    (holds : scenario.Holds state)
    (index : Nat) :
    (receive (state.sentBy (.worker index))).shutdowns = 0 := by
  cases found : state.tasks[index]? with
  | none =>
      have idle := holds.idle index (List.getElem?_eq_none_iff.mp found)
      rw [State.sentBy, idle, List.flatMap_nil, receive_nil]
      rfl
  | some task =>
      have taskHolds := holds.tasks index task found
      obtain ⟨idPrefix, _, record⟩ := taskHolds.record
      obtain ⟨frames, quiet, begun⟩ :=
        exists_frames_of_workerActions (scenario.settings.runWorker_worked
          (scenario.watched .clientRunning) scenario.network
          (UInt64.ofNat index) idPrefix
          (scenario.sourceOf (UInt64.ofNat index)))
      have bound := Reception.shutdowns_le_of_begun
        (fun frame member => (quiet frame member).1)
        ((State.sentBy_begun taskHolds.acted).trans (record ▸ begun))
      have none : frames.countP
          (fun frame => frame.header.command = .shutdown) = 0 := by
        apply List.countP_eq_zero.mpr
        intro frame member isShutdown
        exact (quiet frame member).2 (of_decide_eq_true isShutdown)
      rw [none] at bound
      exact Nat.le_zero.mp bound

/-- What is done for the shutdown is a beginning of what is to be done. -/
theorem Holds.acted_terminator
    {scenario : Scenario Source}
    {state : State}
    (holds : scenario.Holds state) :
    ∃ remaining,
      state.actionsBy .terminator ++ remaining =
        terminatorActions scenario.terminator := by
  have phaseHolds := holds.phase
  unfold PhaseHolds at phaseHolds
  cases phase : state.phase with
  | spawning next =>
      rw [phase] at phaseHolds
      exact ⟨_, by rw [phaseHolds.2.2, List.nil_append]⟩
  | joining =>
      rw [phase] at phaseHolds
      exact ⟨_, by rw [phaseHolds.2, List.nil_append]⟩
  | terminating remaining =>
      rw [phase] at phaseHolds
      exact ⟨remaining, phaseHolds.2.2⟩
  | finished ending =>
      rw [phase] at phaseHolds
      rcases phaseHolds with ⟨_, silent⟩ | ⟨_, _, acted⟩
      · exact ⟨_, by rw [silent, List.nil_append]⟩
      · rw [acted, Settings.terminator?]
        cases scenario.settings.shutdown with
        | true => exact ⟨[], List.append_nil _⟩
        | false => exact ⟨_, List.nil_append _⟩

/-- The run sends one shutdown or none. -/
theorem Holds.shutdowns_terminator
    {scenario : Scenario Source}
    {state : State}
    (holds : scenario.Holds state) :
    (receive (state.sentBy .terminator)).shutdowns ≤ 1 := by
  obtain ⟨remaining, acted⟩ := holds.acted_terminator
  have begun := State.sentBy_begun acted
  rw [terminatorActions, flatMap_bytes_connectionActions] at begun
  have header : (scenario.terminator.connection.map Stream.sent).getD [] <+:
      Frame.encodeAll [.bare .shutdown] := by
    cases connection : scenario.terminator.connection with
    | none => exact List.nil_prefix
    | some stream => exact Settings.sent_runTerminator_begun connection
  refine Reception.shutdowns_le_of_begun ?_ (begun.trans header)
  intro frame member
  obtain rfl := List.mem_singleton.mp member
  rfl

/-- What holds at a moment between the workers and the shutdown. -/
structure Barrier (scenario : Scenario Source) (state : State) : Prop where
  waits : state.actionsBy .terminator ≠ [] ->
    state.tasks.length = scenario.settings.workers.toNat ∧
      state.handles = [] ∧
      state.arrivals.length = scenario.settings.workers.toNat ∧
      ∀ task ∈ state.tasks,
        task.finished = true ∧ task.remaining = [] ∧
          task.record.arrival?.isSome
  quiet : ∀ index,
    (receive (state.sentBy (.worker index))).shutdowns = 0
  once : (receive (state.sentBy .terminator)).shutdowns ≤ 1
  ends : Acc (fun later earlier => scenario.Next earlier later) state
  begins : ∀ list, scenario.settings.assignments = .ok list ->
    (∀ task ∈ state.tasks, task.record.arrival?.isSome) ->
    (∀ later, ¬scenario.Next state later) ->
    ∃ made, .connect made ∈ state.actionsBy .terminator

/-- In every schedule of a run with a shutdown, the shutdown waits for the end
of every worker, at most one shutdown is sent, and the shutdown is tried in the
end however the workers have ended. -/
theorem barrier_of_reachable
    {scenario : Scenario Source}
    {state : State}
    (shutdown : scenario.settings.shutdown = true)
    (reached : scenario.Reachable state) : scenario.Barrier state := by
  have holds := holds_of_reachable reached
  refine ⟨?_, holds.shutdowns_worker, holds.shutdowns_terminator,
    scenario.wellFounded_next.apply state, ?_⟩
  · intro acted
    have all := holds.allJoined_of_acted acted
    obtain ⟨ends, order⟩ := holds.arrivals_of_allJoined all
    have lengths := congrArg List.length ends
    rw [List.length_map, List.length_map, State.records, List.length_map,
      all.count] at lengths
    exact ⟨all.count, all.joined, order.length_eq.trans lengths.symm,
      holds.ended_of_allJoined all⟩
  · intro list assigns ends stuck
    rw [actionsBy_terminator_of_stuck holds shutdown assigns ends stuck]
    exact exists_connect_mem _

/-- A run whose only worker is cut off by a fault and whose shutdown cannot
connect. -/
def cutOff : Scenario KeyStream :=
  { settings :=
      { Settings.standard with
        workers := 1
        limits := { maxStreams := 0, maxStreamLength := 1 } }
    watched := fun _ => true
    network := Peer.refusing.network
    sourceOf := .seeded }

theorem barrier_cutOff :
    cutOff.settings.shutdown = true ∧
      ∃ state, cutOff.Reachable state ∧
        state.actionsBy .terminator = [.connect false] ∧
        cutOff.Barrier state := by
  have started : cutOff.Reachable .initial := .initial
  have assigned : cutOff.settings.idPrefix (UInt64.ofNat 0) = .ok 0 := by
    decide
  have actions : workerActions (cutOff.worker 0 0) = [.drawPlan] := rfl
  have arrives : (cutOff.worker 0 0).arrival? =
      some (.aborted .emptyRange) := rfl
  have spawned := started.step (.spawn rfl Nat.zero_lt_one assigned)
  have all := spawned.step (.allSpawned rfl rfl)
  have drawn := all.step (@Next.act _ _ _ _ 0 _ _ _ rfl actions)
  have finished := drawn.step (@Next.finish _ _ _ _ 0 _ rfl rfl rfl rfl)
  have joined := finished.step
    (@Next.join _ _ _ _ 0 _ _ rfl List.mem_cons_self rfl rfl arrives)
  have begun := joined.step (.allJoined rfl rfl rfl)
  have tried := begun.step (.terminate rfl)
  exact ⟨rfl, _, tried, rfl, barrier_of_reachable rfl tried⟩

end Scenario
end StreamLoad

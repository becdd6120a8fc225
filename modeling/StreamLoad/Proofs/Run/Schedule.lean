import Mathlib.Data.List.Nodup
import StreamLoad.Proofs.Run.Assignment
import StreamLoad.Run.Schedule

/-!
# What holds at every moment of a schedule

Every task has done a beginning of what its worker does, and what was joined
has ended. The ends that were taken note of, together with those of the tasks
that are not joined yet, are the ends of all tasks. The shutdown does nothing
before the last task is joined. Each step of a schedule keeps this.
-/

namespace StreamLoad

namespace Schedule.State

/-- What became of the workers that have been spawned. -/
def records (state : State) : List WorkerRecord :=
  state.tasks.map Task.record

/-- What the report takes from the task of some index. -/
def arrivalAt (state : State) (index : Nat) : Option Report.Arrival :=
  state.records[index]?.bind WorkerRecord.arrival?

theorem actionsBy_of_trail
    {before after : State}
    {who : Actor}
    {action : Action}
    (trail : after.trail = before.trail ++ [(who, action)])
    (actor : Actor) :
    after.actionsBy actor =
      before.actionsBy actor ++ if who = actor then [action] else [] := by
  unfold actionsBy
  rw [trail, List.filter_append, List.map_append]
  by_cases same : who = actor <;> simp [same]

theorem actionsBy_of_other
    {before after : State}
    {who actor : Actor}
    {action : Action}
    (trail : after.trail = before.trail ++ [(who, action)])
    (different : who ≠ actor) :
    after.actionsBy actor = before.actionsBy actor := by
  rw [actionsBy_of_trail trail, if_neg different, List.append_nil]

/-- Changing what is left of a task changes no record. -/
theorem records_set
    {tasks : List Task}
    {index : Nat}
    {task changed : Task}
    (found : tasks[index]? = some task)
    (same : changed.record = task.record) :
    (tasks.set index changed).map Task.record = tasks.map Task.record := by
  have inside := (List.getElem?_eq_some_iff.mp found).1
  apply List.ext_getElem?
  intro other
  rw [List.getElem?_map, List.getElem?_map, List.getElem?_set]
  by_cases equal : index = other
  · subst equal
    rw [if_pos rfl, if_pos inside, found, Option.map_some, Option.map_some,
      same]
  · rw [if_neg equal]

end Schedule.State

namespace Scenario

open Schedule

variable {Source : Type}

theorem terminator?_of_shutdown
    (scenario : Scenario Source)
    (shutdown : scenario.settings.shutdown = true) :
    scenario.settings.terminator? scenario.network scenario.sourceOf =
      some scenario.terminator := by
  rw [Settings.terminator?, if_pos shutdown]
  rfl

/-- Every worker has been spawned and joined. -/
structure AllJoined (scenario : Scenario Source) (state : State) : Prop where
  count : state.tasks.length = scenario.settings.workers.toNat
  joined : state.handles = []

/-- A run ends without a shutdown by the fault that kept it from spawning its
workers, or it has joined them all and ended as the shutdown made it end. -/
def EndHolds
    (scenario : Scenario Source)
    (state : State)
    (ending : RunEnd) : Prop :=
  ((∃ fault, scenario.settings.assignments = .error fault ∧
      ending = .faulted fault) ∧
    state.actionsBy .terminator = []) ∨
  (scenario.AllJoined state ∧
    ending = (Report.collect state.arrivals).runEnd scenario.watched
      (scenario.settings.terminator? scenario.network scenario.sourceOf) ∧
    state.actionsBy .terminator =
      ((scenario.settings.terminator? scenario.network
        scenario.sourceOf).map terminatorActions).getD [])

/-- What holds in each phase of a run, of the tasks and of the shutdown. -/
def PhaseHolds (scenario : Scenario Source) (state : State) : Prop :=
  match state.phase with
  | .spawning next =>
      state.tasks.length = next ∧
        next ≤ scenario.settings.workers.toNat ∧
        state.actionsBy .terminator = []
  | .joining =>
      state.tasks.length = scenario.settings.workers.toNat ∧
        state.actionsBy .terminator = []
  | .terminating remaining =>
      scenario.AllJoined state ∧
        scenario.settings.shutdown = true ∧
        state.actionsBy .terminator ++ remaining =
          terminatorActions scenario.terminator
  | .finished ending => scenario.EndHolds state ending

/-- What holds of the phase depends on the number of tasks, on what was joined
and on what the shutdown has done. -/
theorem PhaseHolds.frame
    {scenario : Scenario Source}
    {before after : State}
    (holds : scenario.PhaseHolds before)
    (phase : after.phase = before.phase)
    (length : after.tasks.length = before.tasks.length)
    (handles : after.handles = before.handles)
    (arrivals : after.arrivals = before.arrivals)
    (actions : after.actionsBy .terminator = before.actionsBy .terminator) :
    scenario.PhaseHolds after := by
  have allJoined (all : scenario.AllJoined before) :
      scenario.AllJoined after :=
    ⟨length.trans all.count, handles.trans all.joined⟩
  unfold PhaseHolds EndHolds at holds ⊢
  rw [phase, length, arrivals, actions]
  cases isPhase : before.phase with
  | spawning next =>
      rw [isPhase] at holds
      exact holds
  | joining =>
      rw [isPhase] at holds
      exact holds
  | terminating remaining =>
      rw [isPhase] at holds
      exact ⟨allJoined holds.1, holds.2⟩
  | finished ending =>
      rw [isPhase] at holds
      exact holds.imp_right fun ends => ⟨allJoined ends.1, ends.2⟩

variable [WordSource Source]

/-- What holds of the task of some index: it belongs to that worker and has
done a beginning of what the worker does, all of it when it has finished. A
task that is not to be joined has finished. -/
structure TaskHolds
    (scenario : Scenario Source)
    (state : State)
    (index : Nat)
    (task : Task) : Prop where
  inside : index < scenario.settings.workers.toNat
  record : ∃ idPrefix,
    scenario.settings.idPrefix (UInt64.ofNat index) = .ok idPrefix ∧
      task.record = scenario.worker (UInt64.ofNat index) idPrefix
  acted : state.actionsBy (.worker index) ++ task.remaining =
    workerActions task.record
  ended : task.finished = true ->
    task.remaining = [] ∧ task.record.arrival?.isSome
  joined : index ∉ state.handles -> task.finished = true

/-- What holds at every moment of a schedule. -/
structure Holds (scenario : Scenario Source) (state : State) : Prop where
  tasks : ∀ (index : Nat) (task : Task), state.tasks[index]? = some task ->
    scenario.TaskHolds state index task
  idle : ∀ index, state.tasks.length ≤ index ->
    state.actionsBy (.worker index) = []
  nodup : state.handles.Nodup
  spawned : ∀ index ∈ state.handles, index < state.tasks.length
  accounted :
    (state.arrivals ++ state.handles.filterMap state.arrivalAt).Perm
      (state.records.filterMap WorkerRecord.arrival?)
  phase : scenario.PhaseHolds state

/-- What holds of a task goes on to hold while its own actions stay the same
and it is not joined. -/
theorem TaskHolds.frame
    {scenario : Scenario Source}
    {before after : State}
    {index : Nat}
    {task : Task}
    (holds : scenario.TaskHolds before index task)
    (actions : after.actionsBy (.worker index) =
      before.actionsBy (.worker index))
    (handles : index ∉ after.handles -> index ∉ before.handles) :
    scenario.TaskHolds after index task :=
  { inside := holds.inside
    record := holds.record
    acted := actions ▸ holds.acted
    ended := holds.ended
    joined := fun absent => holds.joined (handles absent) }

theorem holds_initial (scenario : Scenario Source) :
    scenario.Holds .initial := by
  refine ⟨?_, ?_, List.nodup_nil, ?_, .nil, rfl, Nat.zero_le _, rfl⟩
  · intro index task found
    cases found
  · intro index _
    rfl
  · intro index member
    cases member

/-- A task that is spawned is to be joined. -/
theorem Holds.accounted_spawn
    {scenario : Scenario Source}
    {before after : State}
    {task : Task}
    (holds : scenario.Holds before)
    (arrivals : after.arrivals = before.arrivals)
    (handles : after.handles = before.handles ++ [before.tasks.length])
    (tasks : after.tasks = before.tasks ++ [task]) :
    (after.arrivals ++ after.handles.filterMap after.arrivalAt).Perm
      (after.records.filterMap WorkerRecord.arrival?) := by
  have records : after.records = before.records ++ [task.record] := by
    rw [State.records, tasks, List.map_append]
    rfl
  have length : before.records.length = before.tasks.length :=
    List.length_map _
  have earlier : before.handles.filterMap after.arrivalAt =
      before.handles.filterMap before.arrivalAt := by
    apply List.filterMap_congr
    intro index member
    have inside := holds.spawned index member
    rw [← length] at inside
    rw [State.arrivalAt, records, List.getElem?_append_left inside]
    rfl
  have last : after.arrivalAt before.tasks.length =
      task.record.arrival? := by
    rw [State.arrivalAt, records, ← length,
      List.getElem?_append_right (Nat.le_refl _), Nat.sub_self]
    rfl
  rw [arrivals, handles, records, List.filterMap_append,
    List.filterMap_append, earlier, ← List.append_assoc]
  apply holds.accounted.append
  rw [List.filterMap_cons, List.filterMap_cons, last]
  cases task.record.arrival? <;> exact .rfl

/-- A step that only moves the run on keeps what holds of the tasks. -/
theorem Holds.move
    {scenario : Scenario Source}
    {state : State}
    (holds : scenario.Holds state)
    {phase : Phase}
    (phaseHolds : scenario.PhaseHolds { state with phase }) :
    scenario.Holds { state with phase } :=
  { tasks := fun index task found => (holds.tasks index task found).frame rfl id
    idle := holds.idle
    nodup := holds.nodup
    spawned := holds.spawned
    accounted := holds.accounted
    phase := phaseHolds }

theorem Holds.spawn
    {scenario : Scenario Source}
    {state : State}
    {index : Nat}
    {idPrefix : UInt64}
    (holds : scenario.Holds state)
    (phase : state.phase = .spawning index)
    (more : index < scenario.settings.workers.toNat)
    (assigned :
      scenario.settings.idPrefix (UInt64.ofNat index) = .ok idPrefix) :
    scenario.Holds
      { state with
        phase := .spawning (index + 1)
        tasks := state.tasks ++
          [.fresh (scenario.worker (UInt64.ofNat index) idPrefix)]
        handles := state.handles ++ [index] } := by
  have phaseHolds := holds.phase
  simp only [PhaseHolds, phase] at phaseHolds
  obtain ⟨rfl, _, silent⟩ := phaseHolds
  refine ⟨?_, ?_, ?_, ?_, ?_, ?_, more, silent⟩
  · intro index task found
    rcases Nat.lt_trichotomy index state.tasks.length with
      earlier | rfl | later
    · rw [List.getElem?_append_left earlier] at found
      refine (holds.tasks index task found).frame rfl ?_
      intro absent present
      exact absent (List.mem_append_left _ present)
    · rw [List.getElem?_append_right (Nat.le_refl _), Nat.sub_self] at found
      cases found
      refine ⟨more, ⟨idPrefix, assigned, rfl⟩, ?_, nofun, ?_⟩
      · change state.actionsBy _ ++ _ = _
        rw [holds.idle _ (Nat.le_refl _)]
        rfl
      · intro absent
        simp at absent
    · have beyond : (state.tasks ++ [Task.fresh
          (scenario.worker (UInt64.ofNat state.tasks.length)
            idPrefix)]).length ≤ index := by
        rw [List.length_append]
        exact later
      rw [List.getElem?_eq_none beyond] at found
      cases found
  · intro index beyond
    rw [List.length_append] at beyond
    exact holds.idle index (Nat.le_trans (Nat.le_add_right _ _) beyond)
  · refine List.nodup_append.mpr ⟨holds.nodup, List.nodup_singleton _, ?_⟩
    intro index member other last same
    have inside := holds.spawned index member
    rw [same, List.mem_singleton.mp last] at inside
    exact Nat.lt_irrefl _ inside
  · intro index member
    rw [List.length_append]
    rcases List.mem_append.mp member with present | last
    · exact Nat.lt_add_right 1 (holds.spawned index present)
    · rw [List.mem_singleton.mp last]
      exact Nat.lt_succ_self _
  · exact holds.accounted_spawn rfl rfl rfl
  · rw [List.length_append]
    rfl

/-- A step of a single task that keeps its record, and what holds of it, keeps
what holds of the run. -/
theorem Holds.set
    {scenario : Scenario Source}
    {before after : State}
    {index : Nat}
    {task changed : Task}
    (holds : scenario.Holds before)
    (found : before.tasks[index]? = some task)
    (tasks : after.tasks = before.tasks.set index changed)
    (same : changed.record = task.record)
    (handles : after.handles = before.handles)
    (arrivals : after.arrivals = before.arrivals)
    (phase : after.phase = before.phase)
    (actions : ∀ actor, actor ≠ .worker index ->
      after.actionsBy actor = before.actionsBy actor)
    (keeps : scenario.TaskHolds after index changed) :
    scenario.Holds after := by
  have inside := (List.getElem?_eq_some_iff.mp found).1
  have length : after.tasks.length = before.tasks.length := by
    rw [tasks, List.length_set]
  have records : after.records = before.records := by
    rw [State.records, tasks, State.records_set found same]
    rfl
  have arrivalAt : after.arrivalAt = before.arrivalAt := by
    funext other
    rw [State.arrivalAt, records]
    rfl
  have silent : after.actionsBy .terminator = before.actionsBy .terminator :=
    actions .terminator nofun
  refine ⟨?_, ?_, ?_, ?_, ?_, ?_⟩
  · intro other otherTask otherFound
    by_cases equal : other = index
    · subst equal
      rw [tasks, List.getElem?_set_self inside] at otherFound
      cases otherFound
      exact keeps
    · rw [tasks, List.getElem?_set_ne (Ne.symm equal)] at otherFound
      refine (holds.tasks other otherTask otherFound).frame ?_ ?_
      · exact actions _ (fun alike => equal (Actor.worker.inj alike))
      · rw [handles]
        exact id
  · intro other beyond
    rw [length] at beyond
    have different : other ≠ index := by omega
    rw [actions _ (fun alike => different (Actor.worker.inj alike))]
    exact holds.idle other beyond
  · rw [handles]
    exact holds.nodup
  · rw [handles, length]
    exact holds.spawned
  · rw [arrivals, handles, records, arrivalAt]
    exact holds.accounted
  · exact holds.phase.frame phase length handles arrivals silent

theorem Holds.act
    {scenario : Scenario Source}
    {state : State}
    {index : Nat}
    {task : Task}
    {action : Action}
    {remaining : List Action}
    (holds : scenario.Holds state)
    (found : state.tasks[index]? = some task)
    (next : task.remaining = action :: remaining) :
    scenario.Holds
      { state with
        tasks := state.tasks.set index { task with remaining }
        trail := state.trail ++ [(.worker index, action)] } := by
  have before := holds.tasks index task found
  refine holds.set found rfl rfl rfl rfl rfl ?_ ?_
  · intro actor different
    exact State.actionsBy_of_other rfl different.symm
  · refine ⟨before.inside, before.record, ?_, ?_, before.joined⟩
    · rw [State.actionsBy_of_trail rfl, if_pos rfl, List.append_assoc,
        ← before.acted, next]
      rfl
    · intro finished
      have done := (before.ended finished).1
      rw [next] at done
      cases done

theorem Holds.finish
    {scenario : Scenario Source}
    {state : State}
    {index : Nat}
    {task : Task}
    (holds : scenario.Holds state)
    (found : state.tasks[index]? = some task)
    (done : task.remaining = [])
    (ends : task.record.arrival?.isSome) :
    scenario.Holds
      { state with
        tasks := state.tasks.set index { task with finished := true } } := by
  have before := holds.tasks index task found
  refine holds.set found rfl rfl rfl rfl rfl (fun _ _ => rfl) ?_
  exact ⟨before.inside, before.record, before.acted,
    fun _ => ⟨done, ends⟩, fun _ => rfl⟩

theorem Holds.join
    {scenario : Scenario Source}
    {state : State}
    {index : Nat}
    {task : Task}
    {arrival : Report.Arrival}
    (holds : scenario.Holds state)
    (phase : state.phase = .joining)
    (handle : index ∈ state.handles)
    (found : state.tasks[index]? = some task)
    (finished : task.finished = true)
    (arrives : task.record.arrival? = some arrival) :
    scenario.Holds
      { state with
        handles := state.handles.erase index
        arrivals := state.arrivals ++ [arrival] } := by
  have phaseHolds := holds.phase
  simp only [PhaseHolds, phase] at phaseHolds
  refine ⟨?_, holds.idle, holds.nodup.erase index, ?_, ?_, ?_⟩
  · intro other otherTask otherFound
    have before := holds.tasks other otherTask otherFound
    refine ⟨before.inside, before.record, before.acted, before.ended, ?_⟩
    intro absent
    by_cases equal : other = index
    · subst equal
      rw [found] at otherFound
      cases otherFound
      exact finished
    · apply before.joined
      intro present
      exact absent ((List.mem_erase_of_ne equal).mpr present)
  · intro other member
    exact holds.spawned other (List.mem_of_mem_erase member)
  · have here : state.arrivalAt index = some arrival := by
      rw [State.arrivalAt, State.records, List.getElem?_map, found]
      exact arrives
    have order := (List.perm_cons_erase handle).filterMap state.arrivalAt
    rw [List.filterMap_cons_some here] at order
    have moved := (order.append_left state.arrivals).symm.trans
      holds.accounted
    rw [List.append_cons] at moved
    exact moved
  · unfold PhaseHolds
    rw [phase]
    exact phaseHolds

theorem Holds.terminate
    {scenario : Scenario Source}
    {state : State}
    {action : Action}
    {remaining : List Action}
    (holds : scenario.Holds state)
    (phase : state.phase = .terminating (action :: remaining)) :
    scenario.Holds
      { state with
        phase := .terminating remaining
        trail := state.trail ++ [(.terminator, action)] } := by
  have phaseHolds := holds.phase
  simp only [PhaseHolds, phase] at phaseHolds
  obtain ⟨all, shutdown, acted⟩ := phaseHolds
  have quiet (index : Nat) :
      State.actionsBy
          { state with
            phase := .terminating remaining
            trail := state.trail ++ [(.terminator, action)] }
          (.worker index) =
        state.actionsBy (.worker index) :=
    State.actionsBy_of_other rfl Actor.noConfusion
  refine ⟨?_, ?_, holds.nodup, holds.spawned, holds.accounted, ?_⟩
  · intro index task found
    exact (holds.tasks index task found).frame (quiet index) id
  · intro index beyond
    rw [quiet]
    exact holds.idle index beyond
  · refine ⟨⟨all.count, all.joined⟩, shutdown, ?_⟩
    rw [State.actionsBy_of_trail rfl, if_pos rfl, List.append_assoc]
    exact acted

/-- Each step keeps what holds. -/
theorem holds_of_next
    {scenario : Scenario Source}
    {before after : State}
    (holds : scenario.Holds before)
    (next : scenario.Next before after) : scenario.Holds after := by
  have phaseHolds := holds.phase
  unfold PhaseHolds at phaseHolds
  cases next with
  | spawn phase more assigned => exact holds.spawn phase more assigned
  | spawnFaults phase more beyond =>
      rw [phase] at phaseHolds
      have faults := Settings.assignments_eq_error more beyond
      exact holds.move (.inl ⟨⟨_, faults, rfl⟩, phaseHolds.2.2⟩)
  | allSpawned phase all =>
      rw [phase] at phaseHolds
      exact holds.move ⟨phaseHolds.1.trans all, phaseHolds.2.2⟩
  | act found next => exact holds.act found next
  | finish found done ends running => exact holds.finish found done ends
  | join phase handle found finished arrives =>
      exact holds.join phase handle found finished arrives
  | allJoined phase joined shutdown =>
      rw [phase] at phaseHolds
      refine holds.move ⟨⟨phaseHolds.1, joined⟩, shutdown, ?_⟩
      exact congrArg (· ++ _) phaseHolds.2
  | terminate phase => exact holds.terminate phase
  | conclude phase ends =>
      rw [phase] at phaseHolds
      obtain ⟨all, shutdown, acted⟩ := phaseHolds
      rw [List.append_nil] at acted
      have terminator := scenario.terminator?_of_shutdown shutdown
      refine holds.move (.inr ⟨⟨all.count, all.joined⟩, ?_, ?_⟩)
      · rw [terminator]
      · rw [terminator]
        exact acted
  | concludeWithout phase joined stays =>
      rw [phase] at phaseHolds
      have terminator : scenario.settings.terminator? scenario.network
          scenario.sourceOf = none := by
        rw [Settings.terminator?, stays]
        rfl
      refine holds.move (.inr ⟨⟨phaseHolds.1, joined⟩, ?_, ?_⟩)
      · rw [terminator]
      · rw [terminator]
        exact phaseHolds.2

/-- What holds at the beginning and is kept by each step holds whenever. -/
theorem holds_of_reachable
    {scenario : Scenario Source}
    {state : State}
    (reached : scenario.Reachable state) : scenario.Holds state := by
  induction reached with
  | initial => exact holds_initial scenario
  | step reached next hypothesis => exact holds_of_next hypothesis next

/-- When all workers are joined, each of them has come to its end. -/
theorem Holds.ended_of_allJoined
    {scenario : Scenario Source}
    {state : State}
    (holds : scenario.Holds state)
    (all : scenario.AllJoined state) :
    ∀ task ∈ state.tasks,
      task.finished = true ∧ task.remaining = [] ∧
        task.record.arrival?.isSome := by
  intro task member
  obtain ⟨index, found⟩ := List.mem_iff_getElem?.mp member
  have taskHolds := holds.tasks index task found
  have absent : index ∉ state.handles := by
    rw [all.joined]
    exact List.not_mem_nil
  have finished := taskHolds.joined absent
  exact ⟨finished, taskHolds.ended finished⟩

/-- When all workers are joined, their ends have been taken note of, in some
order. -/
theorem Holds.arrivals_of_allJoined
    {scenario : Scenario Source}
    {state : State}
    (holds : scenario.Holds state)
    (all : scenario.AllJoined state) :
    state.records.map WorkerRecord.arrival? =
        (state.records.filterMap WorkerRecord.arrival?).map some ∧
      state.arrivals.Perm
        (state.records.filterMap WorkerRecord.arrival?) := by
  refine ⟨?_, ?_⟩
  · apply map_eq_map_some_filterMap
    intro record member
    obtain ⟨task, isTask, rfl⟩ := List.mem_map.mp member
    exact (holds.ended_of_allJoined all task isTask).2.2
  · have accounted := holds.accounted
    rw [all.joined, List.filterMap_nil, List.append_nil] at accounted
    exact accounted

end Scenario
end StreamLoad

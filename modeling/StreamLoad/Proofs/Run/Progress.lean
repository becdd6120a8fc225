import Mathlib.Order.WellFounded
import StreamLoad.Proofs.Run.Schedule

/-!
# Every schedule comes to an end

A step either moves the run on to a later phase or leaves less to do in the
phase. So no schedule goes on for ever, and one that cannot go on, in a run
whose workers all end, has joined them and begun the shutdown.
-/

namespace StreamLoad

theorem sum_map_set_lt
    {Value : Type}
    {values : List Value}
    {index : Nat}
    {value changed : Value}
    {weight : Value -> Nat}
    (found : values[index]? = some value)
    (less : weight changed < weight value) :
    ((values.set index changed).map weight).sum < (values.map weight).sum := by
  induction values generalizing index with
  | nil => cases found
  | cons first values hypothesis =>
      cases index with
      | zero =>
          cases found
          simp only [List.set_cons_zero, List.map_cons, List.sum_cons]
          exact Nat.add_lt_add_right less _
      | succ index =>
          simp only [List.set_cons_succ, List.map_cons, List.sum_cons]
          exact Nat.add_lt_add_left (hypothesis found) _

namespace Schedule

/-- What is left for a task to do: its actions, and its end. -/
def Task.work (task : Task) : Nat :=
  task.remaining.length + if task.finished then 0 else 1

/-- What is left to do in a phase. -/
def Phase.work : Phase -> Nat
  | .terminating remaining => remaining.length
  | _ => 0

/-- What is left to do before the next phase. -/
def State.work (state : State) : Nat :=
  (state.tasks.map Task.work).sum + state.handles.length + state.phase.work

end Schedule

namespace Scenario

open Schedule

variable {Source : Type} [WordSource Source]

/-- The number of phases still to come; spawning a worker counts as one. -/
def phasesLeft (scenario : Scenario Source) : Phase -> Nat
  | .spawning next => 3 + (scenario.settings.workers.toNat - next)
  | .joining => 2
  | .terminating _ => 1
  | .finished _ => 0

/-- The phases left, and what is left to do in the present one. -/
def measure (scenario : Scenario Source) (state : State) : Nat × Nat :=
  (scenario.phasesLeft state.phase, state.work)

/-- Each step leaves fewer phases, or less to do in the present one. -/
theorem measure_lt_of_next
    {scenario : Scenario Source}
    {before after : State}
    (next : scenario.Next before after) :
    Prod.Lex (· < ·) (· < ·) (scenario.measure after)
      (scenario.measure before) := by
  unfold measure
  cases next with
  | spawn phase more assigned =>
      rw [phase]
      refine .left _ _ ?_
      simp only [phasesLeft]
      omega
  | spawnFaults phase more beyond =>
      rw [phase]
      refine .left _ _ ?_
      simp only [phasesLeft]
      omega
  | allSpawned phase all =>
      rw [phase]
      refine .left _ _ ?_
      simp only [phasesLeft]
      omega
  | @act index task action remaining found next =>
      have less : Task.work { task with remaining } < task.work := by
        simp only [Task.work, next, List.length_cons]
        omega
      refine .right _ ?_
      exact Nat.add_lt_add_right
        (Nat.add_lt_add_right (sum_map_set_lt found less) _) _
  | @finish index task found done ends running =>
      have less : Task.work { task with finished := true } < task.work := by
        simp [Task.work, running]
      refine .right _ ?_
      exact Nat.add_lt_add_right
        (Nat.add_lt_add_right (sum_map_set_lt found less) _) _
  | @join index task arrival phase handle found finished arrives =>
      have less : (before.handles.erase index).length <
          before.handles.length := by
        rw [List.length_erase_of_mem handle]
        exact Nat.sub_one_lt_of_lt (List.length_pos_of_mem handle)
      refine .right _ ?_
      exact Nat.add_lt_add_right (Nat.add_lt_add_left less _) _
  | allJoined phase joined shutdown =>
      rw [phase]
      exact .left _ _ (Nat.lt_succ_self 1)
  | @terminate action remaining phase =>
      have less : Phase.work (.terminating remaining) <
          Phase.work (.terminating (action :: remaining)) :=
        Nat.lt_succ_self _
      simp only [State.work, phase]
      exact .right _ (Nat.add_lt_add_left less _)
  | conclude phase ends =>
      rw [phase]
      exact .left _ _ (Nat.lt_succ_self 0)
  | concludeWithout phase joined stays =>
      rw [phase]
      exact .left _ _ (Nat.zero_lt_succ 1)

/-- No schedule goes on for ever. -/
theorem wellFounded_next (scenario : Scenario Source) :
    WellFounded fun later earlier => scenario.Next earlier later := by
  refine Subrelation.wf measure_lt_of_next (InvImage.wf scenario.measure ?_)
  exact WellFounded.prod_lex Nat.lt_wfRel.wf Nat.lt_wfRel.wf

/-- A schedule has come to its end: no task takes another step. -/
def Completed (scenario : Scenario Source) (state : State) : Prop :=
  scenario.Reachable state ∧ ∀ later, ¬scenario.Next state later

/-- Some schedule of a run comes to its end. -/
theorem exists_completed (scenario : Scenario Source) :
    ∃ state, scenario.Completed state := by
  obtain ⟨state, reached, least⟩ := scenario.wellFounded_next.has_min
    {state | scenario.Reachable state} ⟨.initial, .initial⟩
  refine ⟨state, reached, ?_⟩
  intro later next
  exact least later (Reachable.step reached next) next

/-- A run that can spawn its workers does not stop before it has. -/
theorem exists_next_of_spawning
    {scenario : Scenario Source}
    {state : State}
    {index : Nat}
    {list : List (UInt64 × UInt64)}
    (holds : scenario.Holds state)
    (phase : state.phase = .spawning index)
    (assigns : scenario.settings.assignments = .ok list) :
    ∃ later, scenario.Next state later := by
  have phaseHolds := holds.phase
  unfold PhaseHolds at phaseHolds
  rw [phase] at phaseHolds
  rcases Nat.eq_or_lt_of_le phaseHolds.2.1 with all | more
  · exact ⟨_, .allSpawned phase all⟩
  · have room := Settings.room_of_assignments assigns index more
    have assigned := (Settings.idPrefix_eq_ok_iff more).mpr ⟨room, rfl⟩
    exact ⟨_, .spawn phase more assigned⟩

/-- In a schedule that has come to its end every worker has done all that it
does, if the run can spawn its workers. -/
theorem exists_done_of_completed
    {scenario : Scenario Source}
    {state : State}
    {index : Nat}
    {list : List (UInt64 × UInt64)}
    (completed : scenario.Completed state)
    (assigns : scenario.settings.assignments = .ok list)
    (inside : index < scenario.settings.workers.toNat) :
    ∃ task, state.tasks[index]? = some task ∧ task.remaining = [] := by
  obtain ⟨reached, stuck⟩ := completed
  have holds := holds_of_reachable reached
  have count : state.tasks.length = scenario.settings.workers.toNat := by
    have phaseHolds := holds.phase
    unfold PhaseHolds at phaseHolds
    cases phase : state.phase with
    | spawning next =>
        obtain ⟨later, next⟩ := exists_next_of_spawning holds phase assigns
        exact absurd next (stuck later)
    | joining =>
        rw [phase] at phaseHolds
        exact phaseHolds.1
    | terminating remaining =>
        rw [phase] at phaseHolds
        exact phaseHolds.1.count
    | finished ending =>
        rw [phase] at phaseHolds
        rcases phaseHolds with ⟨⟨fault, faults, _⟩, _⟩ | ⟨all, _, _⟩
        · rw [assigns] at faults
          cases faults
        · exact all.count
  obtain ⟨task, found⟩ : ∃ task, state.tasks[index]? = some task :=
    ⟨_, List.getElem?_eq_getElem (count ▸ inside)⟩
  refine ⟨task, found, ?_⟩
  cases left : task.remaining with
  | nil => rfl
  | cons action remaining => exact absurd (.act found left) (stuck _)

/-- A task whose worker ends can go on until it is joined. -/
theorem exists_next_of_handle
    {scenario : Scenario Source}
    {state : State}
    {index : Nat}
    (holds : scenario.Holds state)
    (phase : state.phase = .joining)
    (handle : index ∈ state.handles)
    (ends : ∀ task ∈ state.tasks, task.record.arrival?.isSome) :
    ∃ later, scenario.Next state later := by
  have inside := holds.spawned index handle
  have found : state.tasks[index]? = some state.tasks[index] :=
    List.getElem?_eq_getElem inside
  have arrives := ends _ (List.getElem_mem inside)
  generalize state.tasks[index] = task at found arrives
  cases left : task.remaining with
  | cons action remaining => exact ⟨_, .act found left⟩
  | nil =>
      cases finished : task.finished with
      | false => exact ⟨_, .finish found left arrives finished⟩
      | true =>
          obtain ⟨arrival, isArrival⟩ := Option.isSome_iff_exists.mp arrives
          exact ⟨_, .join phase handle found finished isArrival⟩

/-- A schedule that cannot go on, of a run that can spawn its workers and whose
workers all end, has joined every worker and done all that is to be done for the
shutdown. -/
theorem allJoined_of_stuck
    {scenario : Scenario Source}
    {state : State}
    {list : List (UInt64 × UInt64)}
    (holds : scenario.Holds state)
    (assigns : scenario.settings.assignments = .ok list)
    (ends : ∀ task ∈ state.tasks, task.record.arrival?.isSome)
    (stuck : ∀ later, ¬scenario.Next state later) :
    scenario.AllJoined state ∧
      state.actionsBy .terminator =
        ((scenario.settings.terminator? scenario.network
          scenario.sourceOf).map terminatorActions).getD [] := by
  have phaseHolds := holds.phase
  unfold PhaseHolds at phaseHolds
  cases phase : state.phase with
  | spawning index =>
      obtain ⟨later, next⟩ := exists_next_of_spawning holds phase assigns
      exact absurd next (stuck later)
  | joining =>
      cases handles : state.handles with
      | nil =>
          cases shutdown : scenario.settings.shutdown with
          | true => exact absurd (.allJoined phase handles shutdown) (stuck _)
          | false =>
              exact absurd (.concludeWithout phase handles shutdown) (stuck _)
      | cons index others =>
          have handle : index ∈ state.handles := by
            rw [handles]
            exact List.mem_cons_self
          obtain ⟨later, next⟩ := exists_next_of_handle holds phase handle ends
          exact absurd next (stuck later)
  | terminating remaining =>
      rw [phase] at phaseHolds
      obtain ⟨all, shutdown, acted⟩ := phaseHolds
      cases remaining with
      | cons action remaining => exact absurd (.terminate phase) (stuck _)
      | nil =>
          rw [List.append_nil] at acted
          rw [acted, scenario.terminator?_of_shutdown shutdown]
          exact ⟨all, rfl⟩
  | finished ending =>
      rw [phase] at phaseHolds
      rcases phaseHolds with ⟨⟨fault, faults, _⟩, _⟩ | ⟨all, _, acted⟩
      · rw [assigns] at faults
        cases faults
      · exact ⟨all, acted⟩

/-- A schedule that cannot go on, of a run that can spawn its workers and whose
workers all end, has done all that is to be done for the shutdown. -/
theorem actionsBy_terminator_of_stuck
    {scenario : Scenario Source}
    {state : State}
    {list : List (UInt64 × UInt64)}
    (holds : scenario.Holds state)
    (shutdown : scenario.settings.shutdown = true)
    (assigns : scenario.settings.assignments = .ok list)
    (ends : ∀ task ∈ state.tasks, task.record.arrival?.isSome)
    (stuck : ∀ later, ¬scenario.Next state later) :
    state.actionsBy .terminator = terminatorActions scenario.terminator := by
  rw [(allJoined_of_stuck holds assigns ends stuck).2,
    scenario.terminator?_of_shutdown shutdown]
  rfl

end Scenario
end StreamLoad

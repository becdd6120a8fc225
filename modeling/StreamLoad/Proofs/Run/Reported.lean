import StreamLoad.Proofs.Run.Isolation
import StreamLoad.Proofs.Run.Tally

/-!
# What a run that finishes has come to

A schedule that ends with a report has joined every worker, and each of them
has ended. The report lists the outcomes of the workers that returned and counts
those that were cut off. It says that a shutdown was sent exactly when there was
to be one, for one that fails leaves no report.
-/

namespace StreamLoad

/-- A run ends with a report only if its shutdown, if there is one, succeeds. -/
theorem Report.runEnd_eq_finished
    {watched : Event -> Bool}
    {report final : Report}
    {terminator : Option TerminatorRecord}
    (ends : report.runEnd watched terminator = .finished final) :
    (terminator = none ∧ final = report) ∨
      ∃ record,
        terminator = some record ∧ record.ending = .ok () ∧
          final = { report with shutdownSent := true } := by
  have finishes {earlier : Report}
      (finished : earlier.finish watched = .finished final) :
      final = earlier := by
    unfold finish at finished
    split at finished
    all_goals cases finished
    rfl
  unfold runEnd at ends
  cases terminator with
  | none => exact .inl ⟨rfl, finishes ends⟩
  | some record =>
      dsimp only at ends
      rcases ending : record.ending with (error | fault | ⟨⟩) | ⟨⟩
      all_goals rw [ending] at ends
      · cases ends
      · cases ends
      · cases ends
      · exact .inr ⟨record, rfl, ending, finishes ends⟩

/-- A worker that ends and is not cut off by a fault returns. -/
theorem WorkerEnd.exists_returned
    {ending : WorkerEnd}
    (unfaulted : ending.isAborted = false)
    (ends : ending ≠ .endless) :
    ∃ result, ending = .returned result := by
  cases ending with
  | returned result => exact ⟨result, rfl⟩
  | aborted fault => cases unfaulted
  | endless => exact absurd rfl ends

namespace Schedule

/-- A worker that has a plan and a connection puts on the connection what it
has accepted. -/
theorem bytes_workerActions_of_connected
    {record : WorkerRecord}
    {plan : Plan}
    {stream : Stream}
    (planned : record.plan = some plan)
    (connected : record.connection = some stream) :
    (workerActions record).flatMap Action.bytes = stream.sent := by
  rw [workerActions, List.flatMap_cons, planned]
  dsimp only
  rw [flatMap_bytes_connectionActions, connected]
  rfl

end Schedule

namespace Scenario

open Schedule

variable {Source : Type} [WordSource Source]

/-- The worker of an index has the first id of that index and the source of its
own. -/
theorem worked_record (scenario : Scenario Source) (index : Nat) :
    scenario.settings.Worked scenario.network (UInt64.ofNat index)
      (scenario.settings.firstId index)
      (scenario.sourceOf (UInt64.ofNat index)) (scenario.record index) :=
  scenario.settings.runWorker_worked _ _ _ _ _

/-- A worker over a connection has sent a beginning of what the connection takes
from it, and all of that when nothing is left for it to do. -/
theorem TaskHolds.sentBy_of_connected
    {scenario : Scenario Source}
    {state : State}
    {index : Nat}
    {task : Task}
    {plan : Plan}
    {stream : Stream}
    (holds : scenario.TaskHolds state index task)
    (planned : task.record.plan = some plan)
    (connected : task.record.connection = some stream) :
    state.sentBy (.worker index) <+: stream.sent ∧
      (task.remaining = [] ->
        state.sentBy (.worker index) = stream.sent) := by
  have bytes := bytes_workerActions_of_connected planned connected
  have acted := holds.acted
  refine ⟨?_, ?_⟩
  · rw [← bytes]
    exact State.sentBy_begun acted
  · intro done
    rw [done, List.append_nil] at acted
    rw [State.sentBy, acted, bytes]

/-- A schedule that ends with a report, and what the report holds. -/
structure Reported
    (scenario : Scenario Source)
    (state : State)
    (report : Report) : Prop where
  all : scenario.AllJoined state
  ends : ∀ index < scenario.settings.workers.toNat,
    (scenario.record index).ending ≠ .endless
  outcomes : report.outcomes =
    (List.range scenario.settings.workers.toNat).filterMap scenario.outcome?
  told : scenario.ToldBy report
  shutdownSent : report.shutdownSent = scenario.settings.shutdown
  terminated : scenario.settings.shutdown = true ->
    scenario.terminator.ending = .ok () ∧
      state.actionsBy .terminator = terminatorActions scenario.terminator
  silent : scenario.settings.shutdown = false ->
    state.actionsBy .terminator = []

/-- Every worker of a schedule that has joined them all has ended. -/
theorem Holds.ends_of_allJoined
    {scenario : Scenario Source}
    {state : State}
    (holds : scenario.Holds state)
    (all : scenario.AllJoined state) :
    ∀ index < scenario.settings.workers.toNat,
      (scenario.record index).ending ≠ .endless := by
  intro index inside endless
  rw [← all.count] at inside
  have taskHolds := holds.tasks index _ (List.getElem?_eq_getElem inside)
  have arrives :=
    (holds.ended_of_allJoined all _ (List.getElem_mem inside)).2.2
  rw [taskHolds.record_eq] at arrives
  simp [WorkerRecord.arrival?, endless] at arrives

theorem reported_of_finished
    {scenario : Scenario Source}
    {state : State}
    {report : Report}
    (reached : scenario.Reachable state)
    (finished : state.phase = .finished (.finished report)) :
    scenario.Reported state report := by
  have holds := holds_of_reachable reached
  have phaseHolds := holds.phase
  simp only [PhaseHolds, finished] at phaseHolds
  rcases phaseHolds with ⟨⟨fault, _, faulted⟩, _⟩ | ⟨all, ended, acted⟩
  · cases faulted
  have ends := holds.ends_of_allJoined all
  have told := toldBy_collect (assigned_of_allJoined holds all) ends
  have collected := Report.collect_eq_of_perm
    (arrivals_perm_of_allJoined holds all) scenario.ordered_arrivals
  have outcomes := congrArg Report.outcomes scenario.collect_arrivals
  rw [collected] at ended
  rcases Report.runEnd_eq_finished ended.symm with
    ⟨terminator, rfl⟩ | ⟨record, terminator, succeeded, rfl⟩
  all_goals
    rw [terminator] at acted
    unfold Settings.terminator? at terminator
    split at terminator
  next => cases terminator
  next stays =>
    have stays := eq_false_of_ne_true stays
    refine ⟨all, ends, outcomes, told, ?_, ?_, fun _ => acted⟩
    · rw [collect_arrivals, stays]
    · intro shutdown
      rw [stays] at shutdown
      cases shutdown
  next shutdown =>
    cases terminator
    refine ⟨all, ends, outcomes, told.sentShutdown, shutdown.symm,
      fun _ => ⟨succeeded, acted⟩, ?_⟩
    intro stays
    rw [shutdown] at stays
    cases stays
  next => cases terminator

/-- The outcome that a report has of a worker of some index. -/
theorem Reported.mem_iff
    {scenario : Scenario Source}
    {state : State}
    {report : Report}
    {worker : Nat}
    {result : Except SessionError SessionSummary}
    (reported : scenario.Reported state report)
    (inside : worker < scenario.settings.workers.toNat)
    (returned : (scenario.record worker).ending = .returned result)
    (outcome : Outcome) :
    outcome ∈ report.outcomes ∧ outcome.worker.toNat = worker ↔
      outcome =
        { worker := UInt64.ofNat worker
          idPrefix := scenario.settings.firstId worker
          result } := by
  have bound := scenario.settings.workers.toNat_lt
  rw [reported.outcomes, List.mem_filterMap]
  refine ⟨?_, ?_⟩
  · rintro ⟨⟨index, inRange, found⟩, isWorker⟩
    obtain ⟨owner, idPrefix, told⟩ := outcome
    obtain ⟨rfl, rfl, ending⟩ := outcome?_eq_some_iff.mp found
    have below := List.mem_range.mp inRange
    obtain rfl : index = worker :=
      (UInt64.toNat_ofNat_of_lt' (by unfold UInt64.size; omega)).symm.trans
        isWorker
    rw [returned] at ending
    cases ending
    rfl
  · rintro rfl
    refine ⟨⟨worker, List.mem_range.mpr inside,
      outcome?_eq_some_iff.mpr ⟨rfl, rfl, returned⟩⟩, ?_⟩
    exact UInt64.toNat_ofNat_of_lt' (by unfold UInt64.size; omega)

/-- A schedule of workers that all end and of a shutdown that ends, if there is
one, goes on until the run ends as it does with the workers one after the
other. -/
theorem phase_of_completed
    {scenario : Scenario Source}
    {state : State}
    {list : List (UInt64 × UInt64)}
    (completed : scenario.Completed state)
    (assigns : scenario.settings.assignments = .ok list)
    (ends : ∀ index < scenario.settings.workers.toNat,
      (scenario.record index).ending ≠ .endless)
    (terminates : scenario.terminator.ending ≠ .error (.halted .endless)) :
    state.phase = .finished scenario.run.ending := by
  obtain ⟨reached, stuck⟩ := completed
  have holds := holds_of_reachable reached
  have all := (allJoined_of_stuck holds assigns (arrives_of_ends holds ends)
    stuck).1
  cases phase : state.phase with
  | spawning index =>
      obtain ⟨later, next⟩ := exists_next_of_spawning holds phase assigns
      exact absurd next (stuck later)
  | joining =>
      cases shutdown : scenario.settings.shutdown with
      | true => exact absurd (.allJoined phase all.joined shutdown) (stuck _)
      | false =>
          exact absurd (.concludeWithout phase all.joined shutdown) (stuck _)
  | terminating remaining =>
      cases remaining with
      | cons action remaining => exact absurd (.terminate phase) (stuck _)
      | nil => exact absurd (.conclude phase terminates) (stuck _)
  | finished ending => rw [ending_of_finished holds phase]

/-- Workers that all end and a shutdown that succeeds, if there is to be one,
leave a report when nothing looks at the final event. -/
theorem exists_report_of_ends
    {scenario : Scenario Source}
    {list : List (UInt64 × UInt64)}
    (assigns : scenario.settings.assignments = .ok list)
    (ends : ∀ index < scenario.settings.workers.toNat,
      (scenario.record index).ending ≠ .endless)
    (terminates : scenario.settings.shutdown = true ->
      scenario.terminator.ending = .ok ())
    (quiet : scenario.watched .runFinished = false) :
    ∃ report, scenario.run.ending = .finished report := by
  have finishes (report : Report) :
      report.finish scenario.watched = .finished report := by
    rw [Report.finish, quiet]
    rfl
  rw [run, Settings.run_of_arrivals assigns (map_arrival?_of_ends ends)]
  cases shutdown : scenario.settings.shutdown with
  | false =>
      rw [Settings.terminator?, shutdown]
      exact ⟨_, finishes _⟩
  | true =>
      rw [scenario.terminator?_of_shutdown shutdown, Report.runEnd]
      dsimp only
      rw [terminates shutdown]
      exact ⟨_, finishes _⟩

end Scenario
end StreamLoad

import StreamLoad.Program
import StreamLoad.Proofs.Run.Tally
import StreamLoad.Proofs.Run.Terminator

/-!
# What a run makes of the program

A run that comes to its end decides how the program exits. A shutdown that fails
is told before any worker. Behind a shutdown that has been sent, or when there
is to be none, the workers that failed are counted, and only when there are none
does the program succeed.
-/

namespace StreamLoad

/-- The end of the program by the end of its run. -/
def RunEnd.programEnd : RunEnd -> ProgramEnd
  | .finished report => report.programEnd
  | .shutdownFailed error => .failure (.shutdown error)
  | .faulted fault => .fault fault
  | .endless => .endless

namespace RunRecord

/-- The run comes to its end, and not by a fault of its own. -/
def Ends (record : RunRecord) : Prop :=
  record.ending ≠ .endless ∧ ∀ fault, record.ending ≠ .faulted fault

/-- Every worker of the run has succeeded. -/
def AllSucceed (record : RunRecord) : Prop :=
  ∀ worker ∈ record.workers, ∃ summary,
    worker.ending = .returned (.ok summary)

/-- How many workers of the run have failed or were cut off. -/
def failures (record : RunRecord) : Nat :=
  record.workers.countP fun worker => worker.ending.isFailure

/-- A shutdown, if there is to be one, has connected and sent its header. -/
def SendsShutdown (record : RunRecord) (settings : Settings) : Prop :=
  settings.shutdown = true -> ∃ terminator stream,
    record.terminator = some terminator ∧
      terminator.connection = some stream ∧
      stream.sent = Header.shutdown.encode

/-- Among workers that end, none has failed exactly when every one has
succeeded. -/
theorem failures_eq_zero_iff
    {record : RunRecord}
    (ends : ∀ worker ∈ record.workers, worker.ending ≠ .endless) :
    record.failures = 0 ↔ record.AllSucceed := by
  rw [failures, List.countP_eq_zero]
  refine forall₂_congr fun worker member => ?_
  rw [WorkerEnd.isFailure_eq_not_isSome (ends worker member),
    Bool.not_eq_true, Bool.not_eq_false', Option.isSome_iff_exists]
  exact exists_congr fun summary => WorkerEnd.summary?_eq_some_iff

/-- How the program exits after a run that comes to its end: by the error of the
shutdown, by the number of workers that failed, or with success. -/
inductive ExitsBy
    (record : RunRecord)
    (settings : Settings) : ProgramEnd -> Prop
  | shutdownFailed
      {terminator : TerminatorRecord}
      {error : SessionError}
      (terminated : record.terminator = some terminator)
      (failed : terminator.ending = .error (.failed error))
      (unsent : ¬record.SendsShutdown settings) :
      record.ExitsBy settings (.failure (.shutdown error))
  | workersFailed
      (sends : record.SendsShutdown settings)
      (some : record.failures ≠ 0) :
      record.ExitsBy settings
        (.failure (.workersFailed record.failures settings.workers.toNat))
  | success
      (sends : record.SendsShutdown settings)
      (none : record.failures = 0) :
      record.ExitsBy settings .success

namespace ExitsBy

variable {record : RunRecord} {settings : Settings} {ending : ProgramEnd}

theorem status
    (exits : record.ExitsBy settings ending) :
    (ending = .success ∧ ending.status? = some 0) ∨
      ∃ error, ending = .failure error ∧ ending.status? = some 1 := by
  cases exits with
  | shutdownFailed => exact .inr ⟨_, rfl, rfl⟩
  | workersFailed => exact .inr ⟨_, rfl, rfl⟩
  | success => exact .inl ⟨rfl, rfl⟩

theorem eq_success_iff
    (exits : record.ExitsBy settings ending) :
    ending = .success ↔
      record.failures = 0 ∧ record.SendsShutdown settings := by
  cases exits with
  | shutdownFailed terminated failed unsent =>
      exact iff_of_false nofun fun succeeds => unsent succeeds.2
  | workersFailed sends some =>
      exact iff_of_false nofun fun succeeds => some succeeds.1
  | success sends none => exact iff_of_true rfl ⟨none, sends⟩

/-- A shutdown that is not sent is told, whatever the workers did. -/
theorem exists_shutdown
    (exits : record.ExitsBy settings ending)
    (unsent : ¬record.SendsShutdown settings) :
    ∃ terminator error,
      record.terminator = some terminator ∧
        terminator.ending = .error (.failed error) ∧
        ending = .failure (.shutdown error) := by
  cases exits with
  | shutdownFailed terminated failed => exact ⟨_, _, terminated, failed, rfl⟩
  | workersFailed sends => exact absurd sends unsent
  | success sends => exact absurd sends unsent

/-- With the shutdown sent, only workers can have failed. -/
theorem eq_workersFailed
    (exits : record.ExitsBy settings ending)
    (sends : record.SendsShutdown settings)
    (fails : ending ≠ .success) :
    1 ≤ record.failures ∧
      ending =
        .failure (.workersFailed record.failures settings.workers.toNat) := by
  cases exits with
  | shutdownFailed terminated failed unsent => exact absurd sends unsent
  | workersFailed _ some => exact ⟨Nat.one_le_iff_ne_zero.mpr some, rfl⟩
  | success => exact absurd rfl fails

end ExitsBy
end RunRecord

namespace Scenario

variable {Source : Type} [WordSource Source]

/-- The run of workers of which one never ends does not end. -/
theorem ending_run_of_endless
    {scenario : Scenario Source}
    {list : List (UInt64 × UInt64)}
    {index : Nat}
    (assigns : scenario.settings.assignments = .ok list)
    (inside : index < scenario.settings.workers.toNat)
    (endless : (scenario.record index).ending = .endless) :
    scenario.run.ending = .endless := by
  have known := Settings.eq_assigned_of_assignments assigns
  unfold run Settings.run
  rw [assigns, known]
  dsimp only
  rw [Settings.runWorkers_assigned]
  split
  next => rfl
  next arrivals arrive =>
    have member : (scenario.record index).arrival? ∈ arrivals.map some := by
      rw [← mapM_eq_some_iff.mp arrive]
      apply List.mem_map_of_mem
      exact List.mem_map_of_mem (List.mem_range.mpr inside)
    simp [WorkerRecord.arrival?, endless] at member

/-- What the program makes of a report. -/
theorem programEnd_of_toldBy
    {scenario : Scenario Source}
    {report : Report}
    (outcomes : report.outcomes =
      (List.range scenario.settings.workers.toNat).filterMap
        scenario.outcome?)
    (told : scenario.ToldBy report)
    (ends : ∀ index < scenario.settings.workers.toNat,
      (scenario.record index).ending ≠ .endless) :
    report.programEnd =
      if scenario.unsuccessful.length = 0 then
        .success
      else
        .failure (.workersFailed scenario.unsuccessful.length
          scenario.settings.workers.toNat) := by
  have bound := scenario.settings.workers.toNat_lt
  obtain ⟨failed, fails, all⟩ := told.exists_failed
  have total : report.total = .ok scenario.settings.workers.toNat := by
    apply checkedCount_eq_ok_iff.mpr
    exact ⟨told.total, bound⟩
  have both := length_successful_add_length_unsuccessful ends
  rw [succeeded_eq_length_successful outcomes] at all
  obtain rfl : failed = scenario.unsuccessful.length := by omega
  unfold Report.programEnd
  rw [fails, total]

section Run

variable {scenario : Scenario Source} {list : List (UInt64 × UInt64)}

theorem workers_run
    (assigns : scenario.settings.assignments = .ok list) :
    scenario.run.workers =
      (List.range scenario.settings.workers.toNat).map scenario.record :=
  Settings.workers_run assigns _ _ _

theorem failures_run
    (assigns : scenario.settings.assignments = .ok list) :
    scenario.run.failures = scenario.unsuccessful.length := by
  rw [RunRecord.failures, workers_run assigns, List.countP_map,
    List.countP_eq_length_filter]
  rfl

/-- A run whose workers all end goes on to the shutdown. -/
theorem terminator_run
    (assigns : scenario.settings.assignments = .ok list)
    (allEnd : ∀ index < scenario.settings.workers.toNat,
      (scenario.record index).ending ≠ .endless) :
    scenario.run.terminator =
      scenario.settings.terminator? scenario.network scenario.sourceOf := by
  have ran := Settings.run_of_arrivals assigns (map_arrival?_of_ends allEnd)
  rw [run, ran]

/-- Such a run has sent a shutdown, if there is to be one, exactly when the
shutdown ends without an error. -/
theorem sendsShutdown_run_iff
    (assigns : scenario.settings.assignments = .ok list)
    (allEnd : ∀ index < scenario.settings.workers.toNat,
      (scenario.record index).ending ≠ .endless) :
    scenario.run.SendsShutdown scenario.settings ↔
      (scenario.settings.shutdown = true ->
        scenario.terminator.ending = .ok ()) := by
  refine forall_congr' fun shutdown => ?_
  rw [terminator_run assigns allEnd, scenario.terminator?_of_shutdown shutdown,
    terminator, Settings.runTerminator_eq_ok_iff]
  simp

/-- When the shutdown has been done with, the workers decide. -/
theorem exitsBy_finish
    {report : Report}
    (assigns : scenario.settings.assignments = .ok list)
    (allEnd : ∀ index < scenario.settings.workers.toNat,
      (scenario.record index).ending ≠ .endless)
    (outcomes : report.outcomes =
      (List.range scenario.settings.workers.toNat).filterMap
        scenario.outcome?)
    (told : scenario.ToldBy report)
    (sends : scenario.run.SendsShutdown scenario.settings)
    (returns : ∀ fault, report.finish scenario.watched ≠ .faulted fault) :
    scenario.run.ExitsBy scenario.settings
      (report.finish scenario.watched).programEnd := by
  have failures := failures_run assigns
  unfold Report.finish at returns ⊢
  cases announced : report.announce (scenario.watched .runFinished) with
  | error fault =>
      rw [announced] at returns
      exact absurd rfl (returns fault)
  | ok done =>
      dsimp only [RunEnd.programEnd]
      rw [programEnd_of_toldBy outcomes told allEnd, ← failures]
      split
      next none => exact .success sends none
      next some => exact .workersFailed sends some

/-- Every worker of a run that ends has ended. -/
theorem record_ne_endless_of_ends
    (assigns : scenario.settings.assignments = .ok list)
    (ends : scenario.run.Ends)
    (index : Nat)
    (inside : index < scenario.settings.workers.toNat) :
    (scenario.record index).ending ≠ .endless :=
  fun endless => ends.1 (ending_run_of_endless assigns inside endless)

/-- A run that ends without a fault of its own makes the program exit in one of
these ways. -/
theorem exitsBy_run
    (assigns : scenario.settings.assignments = .ok list)
    (ends : scenario.run.Ends) :
    scenario.run.ExitsBy scenario.settings scenario.run.ending.programEnd := by
  have allEnd := record_ne_endless_of_ends assigns ends
  have told := toldBy_collect assigns allEnd
  have outcomes := congrArg Report.outcomes scenario.collect_arrivals
  have terminated := terminator_run assigns allEnd
  have sent := sendsShutdown_run_iff assigns allEnd
  have ending : scenario.run.ending =
      (Report.collect scenario.arrivals).runEnd scenario.watched
        scenario.run.terminator := by
    rw [terminated, run,
      Settings.run_of_arrivals assigns (map_arrival?_of_ends allEnd)]
  obtain ⟨forever, returns⟩ := ends
  rw [ending] at forever returns ⊢
  generalize Report.collect scenario.arrivals = report
    at forever returns told outcomes ⊢
  cases shutdown : scenario.settings.shutdown with
  | false =>
      have none : scenario.run.terminator = none := by
        rw [terminated, Settings.terminator?, shutdown]
        rfl
      rw [none] at returns ⊢
      refine exitsBy_finish assigns allEnd outcomes told ?_ returns
      intro other
      rw [shutdown] at other
      cases other
  | true =>
      rw [scenario.terminator?_of_shutdown shutdown] at terminated
      rw [terminated] at forever returns ⊢
      unfold Report.runEnd at forever returns ⊢
      dsimp only at forever returns ⊢
      cases stopped : scenario.terminator.ending with
      | ok done =>
          rw [stopped] at returns
          exact exitsBy_finish assigns allEnd outcomes told.sentShutdown
            (sent.mpr fun _ => stopped) returns
      | error stop =>
          rw [stopped] at forever returns
          cases stop with
          | failed error =>
              refine .shutdownFailed terminated stopped fun sends => ?_
              have succeeded := sent.mp sends shutdown
              rw [stopped] at succeeded
              cases succeeded
          | halted halt =>
              cases halt with
              | fault fault => exact absurd rfl (returns fault)
              | endless => exact absurd rfl forever

/-- Such a run makes the program succeed exactly when every worker succeeds and
the shutdown is sent. -/
theorem programEnd_eq_success_iff
    (assigns : scenario.settings.assignments = .ok list)
    (ends : scenario.run.Ends) :
    scenario.run.ending.programEnd = .success ↔
      scenario.run.AllSucceed ∧
        scenario.run.SendsShutdown scenario.settings := by
  have allEnd : ∀ worker ∈ scenario.run.workers,
      worker.ending ≠ .endless := by
    intro worker member
    rw [workers_run assigns] at member
    obtain ⟨index, inRange, rfl⟩ := List.mem_map.mp member
    exact record_ne_endless_of_ends assigns ends index
      (List.mem_range.mp inRange)
  rw [(exitsBy_run assigns ends).eq_success_iff,
    RunRecord.failures_eq_zero_iff allEnd]

end Run
end Scenario

end StreamLoad

import StreamLoad.Proofs.Fault
import StreamLoad.Run.Report

/-!
# The figures of a report

The figures of a report are exact for any outcomes, those of real runs or not.
Every outcome is a success or a failure, so the successes are never more than
the outcomes from which they are taken. A count or a total is the number that it
stands for, and a fault exactly when this number does not fit into a word. None
of them depends on the order in which the outcomes stand, and neither does
whether it is a fault.
-/

namespace StreamLoad

namespace Outcome

/-- The worker returned an error. -/
def failed (outcome : Outcome) : Bool :=
  match outcome.result with
  | .ok _ => false
  | .error _ => true

/-- What an outcome adds to a total of some figure: nothing when the worker
returned an error. -/
def share (figure : SessionSummary -> Nat) (outcome : Outcome) : Nat :=
  match outcome.result with
  | .ok summary => figure summary
  | .error _ => 0

theorem failed_eq_not_succeeded (outcome : Outcome) :
    outcome.failed = !outcome.succeeded := by
  obtain ⟨worker, idPrefix, error | summary⟩ := outcome
  · rfl
  · rfl

theorem failed_eq_false_iff {outcome : Outcome} :
    outcome.failed = false ↔ ∃ summary, outcome.result = .ok summary := by
  obtain ⟨worker, idPrefix, error | summary⟩ := outcome
  · exact iff_of_false nofun nofun
  · exact iff_of_true rfl ⟨summary, rfl⟩

end Outcome

namespace Report

/-- The number of workers that returned an error. -/
def failures (report : Report) : Nat :=
  report.outcomes.countP Outcome.failed

/-- A figure of the summaries, added up over the workers that succeeded. -/
def sumOf (report : Report) (figure : SessionSummary -> Nat) : Nat :=
  (report.outcomes.map (Outcome.share figure)).sum

/-- Two reports come to the same figures, or to the same faults. -/
structure SameFigures (first second : Report) : Prop where
  succeeded : first.succeeded = second.succeeded
  failed : first.failed = second.failed
  isSuccess : first.isSuccess = second.isSuccess
  totalStreams : first.totalStreams = second.totalStreams
  totalBytes : first.totalBytes = second.totalBytes

/-- The figures of a report are those of its outcomes: the outcomes part into
successes and failures, the totals are sums over the successes alone, every
figure is a fault exactly when it does not fit into a word, and the order of the
outcomes makes no difference. -/
structure FiguresExact (report : Report) : Prop where
  parts : report.succeeded + report.failures = report.outcomes.length
  covered : report.succeeded ≤ report.outcomes.length
  failed : report.failed = exactCount (report.failures + report.aborted)
  success : report.isSuccess = .ok true ↔
    (∀ outcome ∈ report.outcomes, ∃ summary, outcome.result = .ok summary) ∧
      report.aborted = 0
  undecided : ∀ fault,
    report.isSuccess = .error fault ↔ report.failed = .error fault
  totalStreams : report.totalStreams =
    exactCount (report.sumOf fun summary => summary.streams)
  totalBytes : report.totalBytes =
    (exactCount (report.sumOf fun summary => summary.bytes.toNat)).map
      UInt64.ofNat
  reordered : ∀ other : Report,
    other.outcomes.Perm report.outcomes -> other.aborted = report.aborted ->
      other.SameFigures report

theorem succeeded_add_failures (report : Report) :
    report.succeeded + report.failures = report.outcomes.length := by
  have failing : report.failures =
      report.outcomes.countP fun outcome => decide ¬outcome.succeeded := by
    refine List.countP_congr fun outcome _ => ?_
    rw [Outcome.failed_eq_not_succeeded]
    simp
  rw [failing]
  exact (List.length_eq_countP_add_countP Outcome.succeeded).symm

/-- What is left of the outcomes without the successes are the failures. -/
theorem failed_eq (report : Report) :
    report.failed = exactCount (report.failures + report.aborted) := by
  rw [Report.failed, checkedCount_eq, ← succeeded_add_failures,
    Nat.add_sub_cancel_left]

/-- What the summaries have of a figure is what the outcomes add to it. -/
theorem sum_map_summaries
    (report : Report)
    (figure : SessionSummary -> Nat) :
    (report.summaries.map figure).sum = report.sumOf figure := by
  unfold summaries sumOf
  induction report.outcomes with
  | nil => rfl
  | cons outcome outcomes hypothesis =>
      rw [List.map_cons, List.sum_cons, ← hypothesis]
      cases ended : outcome.result with
      | error error =>
          have untold : outcome.summary? = none := by
            rw [Outcome.summary?, ended]
          rw [List.filterMap_cons_none untold, Outcome.share, ended]
          exact (Nat.zero_add _).symm
      | ok summary =>
          have told : outcome.summary? = some summary := by
            rw [Outcome.summary?, ended]
          rw [List.filterMap_cons_some told, Outcome.share, ended,
            List.map_cons, List.sum_cons]

theorem totalStreams_eq (report : Report) :
    report.totalStreams =
      exactCount (report.sumOf fun summary => summary.streams) := by
  rw [totalStreams, foldlM_checkedCount (by decide), Nat.zero_add,
    sum_map_summaries]

theorem totalBytes_eq (report : Report) :
    report.totalBytes =
      (exactCount (report.sumOf fun summary => summary.bytes.toNat)).map
        UInt64.ofNat := by
  rw [totalBytes, checkedSum_eq, List.map_map, sum_map_summaries]
  rfl

/-- Nobody failed and nobody was cut off. -/
theorem failures_add_aborted_eq_zero_iff {report : Report} :
    report.failures + report.aborted = 0 ↔
      (∀ outcome ∈ report.outcomes, ∃ summary, outcome.result = .ok summary) ∧
        report.aborted = 0 := by
  rw [Nat.add_eq_zero_iff, failures, List.countP_eq_zero]
  refine and_congr_left' (forall₂_congr fun outcome _ => ?_)
  rw [Bool.not_eq_true, Outcome.failed_eq_false_iff]

theorem isSuccess_eq_true_iff {report : Report} :
    report.isSuccess = .ok true ↔
      (∀ outcome ∈ report.outcomes, ∃ summary, outcome.result = .ok summary) ∧
        report.aborted = 0 := by
  rw [← failures_add_aborted_eq_zero_iff, isSuccess, failed_eq]
  generalize report.failures + report.aborted = number
  rcases Nat.lt_or_ge number (2 ^ 64) with fits | large
  · rw [exactCount_of_lt fits]
    simp [Except.map]
  · rw [exactCount_of_le large]
    simp only [Except.map, reduceCtorEq, false_iff]
    omega

theorem isSuccess_eq_error_iff {report : Report} {fault : Fault} :
    report.isSuccess = .error fault ↔ report.failed = .error fault := by
  rw [isSuccess]
  cases report.failed with
  | ok count => exact iff_of_false nofun nofun
  | error cause => simp only [Except.map, Except.error.injEq]

/-- Outcomes in another order make the same figures. -/
theorem sameFigures_of_perm
    {first second : Report}
    (order : first.outcomes.Perm second.outcomes)
    (aborted : first.aborted = second.aborted) :
    first.SameFigures second := by
  have failures : first.failures = second.failures := order.countP_eq _
  have sums (figure : SessionSummary -> Nat) :
      first.sumOf figure = second.sumOf figure :=
    (order.map (Outcome.share figure)).sum_nat
  have failed : first.failed = second.failed := by
    rw [failed_eq, failed_eq, failures, aborted]
  refine ⟨order.countP_eq _, failed, ?_, ?_, ?_⟩
  · rw [isSuccess, isSuccess, failed]
  · rw [totalStreams_eq, totalStreams_eq, sums]
  · rw [totalBytes_eq, totalBytes_eq, sums]

/-- The figures of any report are exact, in whatever order its outcomes
stand. -/
theorem figuresExact (report : Report) : report.FiguresExact where
  parts := succeeded_add_failures report
  covered := List.countP_le_length
  failed := failed_eq report
  success := isSuccess_eq_true_iff
  undecided := fun _ => isSuccess_eq_error_iff
  totalStreams := totalStreams_eq report
  totalBytes := totalBytes_eq report
  reordered := fun _ order aborted => sameFigures_of_perm order aborted

/-- The bytes of two workers are one too many for a word, although a third has
failed and two were cut off. -/
example :
    let sent (worker bytes : UInt64) : Outcome :=
      { worker
        idPrefix := worker
        result := .ok { idPrefix := worker, streams := 1, bytes } }
    let report : Report :=
      { outcomes :=
          [sent 0 0xffffffffffffffff,
            { worker := 1, idPrefix := 1, result := .error .ackClosed },
            sent 2 1]
        aborted := 2
        shutdownSent := false }
    report.failed = .ok 3 ∧ report.totalStreams = .ok 2 ∧
      report.totalBytes = .error .addOverflow :=
  ⟨rfl, rfl, rfl⟩

end Report
end StreamLoad

import StreamLoad.Proofs.Fault
import StreamLoad.Proofs.Run.CompletionOrder

/-!
# What a report counts

The figures of a report are taken over its outcomes. Worker by worker, they are
sums over the workers that succeeded, and the workers that did not succeed are
the ones that are counted as failed, whether they returned an error or were cut
off.
-/

namespace StreamLoad

/-- What is kept of some elements stands for the elements that are kept. -/
theorem map_filterMap_eq_map_filter
    {Item Kept Value : Type}
    {keep : Item -> Option Kept}
    {before : Item -> Value}
    {after : Kept -> Value}
    {items : List Item}
    (same : ∀ item ∈ items, ∀ kept,
      keep item = some kept -> after kept = before item) :
    (items.filterMap keep).map after =
      (items.filter fun item => (keep item).isSome).map before := by
  induction items with
  | nil => rfl
  | cons item items hypothesis =>
      obtain ⟨here, others⟩ := List.forall_mem_cons.mp same
      cases kept : keep item with
      | none =>
          rw [List.filterMap_cons_none kept,
            List.filter_cons_of_neg (by simp [kept]), hypothesis others]
      | some value =>
          rw [List.filterMap_cons_some kept,
            List.filter_cons_of_pos (by simp [kept]), List.map_cons,
            List.map_cons, here value kept, hypothesis others]

namespace WorkerEnd

/-- The summary of a worker that has succeeded. -/
def summary? : WorkerEnd -> Option SessionSummary
  | .returned (.ok summary) => some summary
  | _ => none

/-- The worker has failed or was cut off by a fault. -/
def isFailure : WorkerEnd -> Bool
  | .returned (.error _) => true
  | .aborted _ => true
  | _ => false

/-- A worker that ends fails unless it succeeds. -/
theorem isFailure_eq_not_isSome
    {ending : WorkerEnd}
    (ends : ending ≠ .endless) :
    ending.isFailure = !ending.summary?.isSome := by
  rcases ending with (error | summary) | fault | ⟨⟩
  · rfl
  · rfl
  · rfl
  · exact absurd rfl ends

theorem summary?_eq_some_iff
    {ending : WorkerEnd}
    {summary : SessionSummary} :
    ending.summary? = some summary ↔ ending = .returned (.ok summary) := by
  unfold summary?
  split <;> simp_all

end WorkerEnd

namespace Scenario

variable {Source : Type} [WordSource Source]

/-- A report that a shutdown has been sent tells the same of the workers. -/
theorem ToldBy.sentShutdown
    {scenario : Scenario Source}
    {report : Report}
    (told : scenario.ToldBy report) :
    scenario.ToldBy { report with shutdownSent := true } :=
  ⟨told.increasing, told.mem_outcomes, told.aborted, told.total⟩

/-- The indices of the workers that have succeeded. -/
def successful (scenario : Scenario Source) : List Nat :=
  (List.range scenario.settings.workers.toNat).filter fun index =>
    (scenario.record index).ending.summary?.isSome

/-- A figure of the summaries in a report, worker by worker. -/
theorem map_summaries
    {scenario : Scenario Source}
    {report : Report}
    {Value : Type}
    {figure : SessionSummary -> Value}
    {figureOf : Nat -> Value}
    (outcomes : report.outcomes =
      (List.range scenario.settings.workers.toNat).filterMap
        scenario.outcome?)
    (same : ∀ index < scenario.settings.workers.toNat, ∀ summary,
      (scenario.record index).ending = .returned (.ok summary) ->
        figure summary = figureOf index) :
    report.summaries.map figure = scenario.successful.map figureOf := by
  have kept : ∀ index, (scenario.outcome? index).bind Outcome.summary? =
      (scenario.record index).ending.summary? := by
    intro index
    unfold outcome? WorkerRecord.arrival?
    rcases (scenario.record index).ending with (error | summary) | fault | ⟨⟩
    all_goals rfl
  have summaries : report.summaries =
      (List.range scenario.settings.workers.toNat).filterMap fun index =>
        (scenario.record index).ending.summary? := by
    rw [Report.summaries, outcomes, List.filterMap_filterMap]
    exact List.filterMap_congr fun index _ => kept index
  rw [summaries]
  apply map_filterMap_eq_map_filter
  intro index inRange summary isSummary
  exact same index (List.mem_range.mp inRange) summary
    (WorkerEnd.summary?_eq_some_iff.mp isSummary)

/-- A report counts the workers that have succeeded. -/
theorem succeeded_eq_length_successful
    {scenario : Scenario Source}
    {report : Report}
    (outcomes : report.outcomes =
      (List.range scenario.settings.workers.toNat).filterMap
        scenario.outcome?) :
    report.succeeded = scenario.successful.length := by
  have summaries : report.summaries.map (fun _ => ()) =
      scenario.successful.map fun _ => () :=
    map_summaries outcomes fun _ _ _ _ => rfl
  have lengths := congrArg List.length summaries
  rw [List.length_map, List.length_map] at lengths
  rw [← lengths, Report.summaries, List.length_filterMap_eq_countP]
  rfl

/-- The workers that succeeded and those that did not are all workers. -/
theorem ToldBy.exists_failed
    {scenario : Scenario Source}
    {report : Report}
    (told : scenario.ToldBy report) :
    ∃ failed,
      report.failed = .ok failed ∧
        report.succeeded + failed = scenario.settings.workers.toNat := by
  have total := told.total
  have bound := scenario.settings.workers.toNat_lt
  have some : report.succeeded ≤ report.outcomes.length :=
    List.countP_le_length
  refine ⟨report.outcomes.length - report.succeeded + report.aborted, ?_, ?_⟩
  · apply checkedCount_eq_ok_iff.mpr
    rw [wordBound_eq]
    omega
  · omega

/-- The indices of the workers that have failed or were cut off. -/
def unsuccessful (scenario : Scenario Source) : List Nat :=
  (List.range scenario.settings.workers.toNat).filter fun index =>
    (scenario.record index).ending.isFailure

/-- A worker that ends is one or the other. -/
theorem length_successful_add_length_unsuccessful
    {scenario : Scenario Source}
    (ends : ∀ index < scenario.settings.workers.toNat,
      (scenario.record index).ending ≠ .endless) :
    scenario.successful.length + scenario.unsuccessful.length =
      scenario.settings.workers.toNat := by
  have failing : scenario.unsuccessful =
      (List.range scenario.settings.workers.toNat).filter fun index =>
        !(scenario.record index).ending.summary?.isSome := by
    apply List.filter_congr
    intro index inRange
    exact WorkerEnd.isFailure_eq_not_isSome
      (ends index (List.mem_range.mp inRange))
  have parts : (List.range scenario.settings.workers.toNat).length = _ :=
    List.length_eq_length_filter_add fun index =>
      (scenario.record index).ending.summary?.isSome
  rw [List.length_range] at parts
  rw [failing, successful]
  exact parts.symm

end Scenario
end StreamLoad

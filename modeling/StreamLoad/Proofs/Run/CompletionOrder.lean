import StreamLoad.Proofs.Run.Connections
import StreamLoad.Proofs.Run.Report
import StreamLoad.Proofs.Run.Schedule

/-!
# The order in which workers end

Workers end in any order, with a result or by a fault. The report of a run does
not depend on that order: it is the report of the workers run one after the
other, and it tells of each worker how it ended.
-/

namespace StreamLoad

/-- The worker was cut off by a fault. -/
def WorkerEnd.isAborted : WorkerEnd -> Bool
  | .aborted _ => true
  | _ => false

/-- A worker that ends has an end to report. -/
theorem WorkerRecord.isSome_arrival?
    {record : WorkerRecord}
    (ends : record.ending ≠ .endless) : record.arrival?.isSome := by
  unfold arrival?
  cases ending : record.ending with
  | returned result => rfl
  | aborted fault => rfl
  | endless => exact absurd ending ends

namespace Scenario

open Schedule

variable {Source : Type} [WordSource Source]

/-- What becomes of the worker of some index. -/
def record (scenario : Scenario Source) (index : Nat) : WorkerRecord :=
  scenario.settings.workerRecord scenario.watched scenario.network
    scenario.sourceOf index

/-- The ends of the workers in the order of the workers. -/
def arrivals (scenario : Scenario Source) : List Report.Arrival :=
  ((List.range scenario.settings.workers.toNat).map scenario.record).filterMap
    WorkerRecord.arrival?

/-- A report tells of each worker how it ended: in the order of the workers the
first id and the result of those that returned, and how many were cut off. -/
structure ToldBy (scenario : Scenario Source) (report : Report) : Prop where
  increasing : report.outcomes.Pairwise fun left right =>
    left.worker < right.worker
  mem_outcomes : ∀ outcome, outcome ∈ report.outcomes ↔
    ∃ index < scenario.settings.workers.toNat,
      outcome.worker.toNat = index ∧
        outcome.idPrefix.toNat =
          index * scenario.settings.idStride.toNat ∧
        (scenario.record index).ending = .returned outcome.result
  aborted : report.aborted =
    (List.range scenario.settings.workers.toNat).countP fun index =>
      (scenario.record index).ending.isAborted
  total : report.outcomes.length + report.aborted =
    scenario.settings.workers.toNat

/-- The outcome of the worker of some index, if it returns. -/
def outcome? (scenario : Scenario Source) (index : Nat) : Option Outcome :=
  (scenario.record index).arrival?.bind Report.Arrival.outcome?

theorem outcome?_eq_some_iff
    {scenario : Scenario Source}
    {index : Nat}
    {outcome : Outcome} :
    scenario.outcome? index = some outcome ↔
      outcome.worker = UInt64.ofNat index ∧
        outcome.idPrefix = scenario.settings.firstId index ∧
        (scenario.record index).ending = .returned outcome.result := by
  obtain ⟨worker, idPrefix⟩ :=
    (scenario.settings.runWorker_worked (scenario.watched .clientRunning)
      scenario.network (UInt64.ofNat index) (scenario.settings.firstId index)
      (scenario.sourceOf (UInt64.ofNat index))).owner
  change (scenario.record index).worker = _ at worker
  change (scenario.record index).idPrefix = _ at idPrefix
  rw [outcome?, ← worker, ← idPrefix, WorkerRecord.arrival?]
  obtain ⟨outcomeWorker, outcomePrefix, outcomeResult⟩ := outcome
  cases (scenario.record index).ending with
  | returned result =>
      simp only [Option.bind_some, Report.Arrival.outcome?_outcome,
        Option.some.injEq, Outcome.mk.injEq, WorkerEnd.returned.injEq]
      tauto
  | aborted fault => simp
  | endless => simp

theorem filterMap_outcome?_arrivals (scenario : Scenario Source) :
    scenario.arrivals.filterMap Report.Arrival.outcome? =
      (List.range scenario.settings.workers.toNat).filterMap
        scenario.outcome? := by
  rw [arrivals, List.filterMap_map, List.filterMap_filterMap]
  rfl

theorem countP_arrivals (scenario : Scenario Source) :
    scenario.arrivals.countP Report.Arrival.isAborted =
      (List.range scenario.settings.workers.toNat).countP fun index =>
        (scenario.record index).ending.isAborted := by
  rw [arrivals, List.filterMap_map, List.countP_filterMap]
  congr 1
  funext index
  rw [Function.comp_apply, WorkerRecord.arrival?]
  cases (scenario.record index).ending <;> rfl

/-- The workers come in their order when they are run one after the other. -/
theorem ordered_arrivals (scenario : Scenario Source) :
    Report.Ordered scenario.arrivals := by
  rw [Report.Ordered, filterMap_outcome?_arrivals, List.pairwise_filterMap]
  apply List.pairwise_lt_range.imp_of_mem
  intro first second _ inRange before outcome found later laterFound
  have inside := List.mem_range.mp inRange
  have bound := scenario.settings.workers.toNat_lt
  rw [(outcome?_eq_some_iff.mp found).1,
    (outcome?_eq_some_iff.mp laterFound).1, UInt64.lt_iff_toNat_lt,
    UInt64.toNat_ofNat_of_lt' (by unfold UInt64.size; omega),
    UInt64.toNat_ofNat_of_lt' (by unfold UInt64.size; omega)]
  exact before

/-- The report of the workers run one after the other. -/
theorem collect_arrivals (scenario : Scenario Source) :
    Report.collect scenario.arrivals =
      { outcomes := (List.range scenario.settings.workers.toNat).filterMap
          scenario.outcome?
        aborted :=
          (List.range scenario.settings.workers.toNat).countP fun index =>
            (scenario.record index).ending.isAborted
        shutdownSent := false } := by
  rw [Report.collect_of_ordered scenario.ordered_arrivals,
    filterMap_outcome?_arrivals, countP_arrivals]

/-- When all workers end, each of their records has an end to report. -/
theorem map_arrival?_of_ends
    {scenario : Scenario Source}
    (ends : ∀ index < scenario.settings.workers.toNat,
      (scenario.record index).ending ≠ .endless) :
    ((List.range scenario.settings.workers.toNat).map scenario.record).map
        WorkerRecord.arrival? =
      scenario.arrivals.map some := by
  apply map_eq_map_some_filterMap
  intro record member
  obtain ⟨index, inRange, rfl⟩ := List.mem_map.mp member
  exact WorkerRecord.isSome_arrival? (ends index (List.mem_range.mp inRange))

/-- When all workers end, their ends are as many as they are. -/
theorem length_arrivals
    {scenario : Scenario Source}
    (ends : ∀ index < scenario.settings.workers.toNat,
      (scenario.record index).ending ≠ .endless) :
    scenario.arrivals.length = scenario.settings.workers.toNat := by
  have lengths := congrArg List.length (map_arrival?_of_ends ends)
  simpa using lengths.symm

/-- The report of the workers tells how each of them ended. -/
theorem toldBy_collect
    {scenario : Scenario Source}
    {list : List (UInt64 × UInt64)}
    (assigns : scenario.settings.assignments = .ok list)
    (ends : ∀ index < scenario.settings.workers.toNat,
      (scenario.record index).ending ≠ .endless) :
    scenario.ToldBy (Report.collect scenario.arrivals) := by
  have ordered := scenario.ordered_arrivals
  have counted :=
    Report.length_filterMap_add_countP scenario.arrivals
  rw [length_arrivals ends, filterMap_outcome?_arrivals, countP_arrivals]
    at counted
  rw [Report.Ordered, filterMap_outcome?_arrivals] at ordered
  rw [collect_arrivals]
  refine ⟨ordered, ?_, rfl, counted⟩
  intro outcome
  have bound := scenario.settings.workers.toNat_lt
  simp only [List.mem_filterMap, List.mem_range, outcome?_eq_some_iff]
  apply exists_congr
  intro index
  apply and_congr_right
  intro inside
  have room := Settings.room_of_assignments assigns index inside
  have small : index < UInt64.size := Nat.lt_trans inside bound
  rw [← UInt64.toNat_inj, ← UInt64.toNat_inj,
    UInt64.toNat_ofNat_of_lt' small, Settings.firstId,
    UInt64.toNat_ofNat_of_lt' room]

/-- A task of some index belongs to the worker of that index. -/
theorem TaskHolds.record_eq
    {scenario : Scenario Source}
    {state : State}
    {index : Nat}
    {task : Task}
    (holds : scenario.TaskHolds state index task) :
    task.record = scenario.record index := by
  obtain ⟨idPrefix, assigned, record⟩ := holds.record
  obtain ⟨_, rfl⟩ := (Settings.idPrefix_eq_ok_iff holds.inside).mp assigned
  exact record

/-- A schedule that has joined every worker has run the same workers as a run
of them one after the other. -/
theorem records_of_allJoined
    {scenario : Scenario Source}
    {state : State}
    (holds : scenario.Holds state)
    (all : scenario.AllJoined state) :
    state.records =
      (List.range scenario.settings.workers.toNat).map scenario.record := by
  apply List.ext_getElem?
  intro index
  rw [State.records, List.getElem?_map, List.getElem?_map]
  rcases Nat.lt_or_ge index scenario.settings.workers.toNat with
    inside | beyond
  · rw [List.getElem?_range inside]
    rw [← all.count] at inside
    have found := List.getElem?_eq_getElem inside
    rw [found, Option.map_some, (holds.tasks index _ found).record_eq]
    rfl
  · rw [List.getElem?_eq_none (all.count ▸ beyond),
      List.getElem?_eq_none (List.length_range ▸ beyond)]
    rfl

/-- A schedule that has joined every worker has taken note of the ends of all of
them, in some order. -/
theorem arrivals_perm_of_allJoined
    {scenario : Scenario Source}
    {state : State}
    (holds : scenario.Holds state)
    (all : scenario.AllJoined state) :
    state.arrivals.Perm scenario.arrivals := by
  have order := (holds.arrivals_of_allJoined all).2
  rw [records_of_allJoined holds all] at order
  exact order

/-- A run whose workers have all been joined can assign them. -/
theorem assigned_of_allJoined
    {scenario : Scenario Source}
    {state : State}
    (holds : scenario.Holds state)
    (all : scenario.AllJoined state) :
    scenario.settings.assignments = .ok scenario.settings.assigned := by
  apply Settings.assignments_of_room
  intro worker inside
  rw [← all.count] at inside
  have taskHolds := holds.tasks worker _ (List.getElem?_eq_getElem inside)
  obtain ⟨idPrefix, assigned, _⟩ := taskHolds.record
  exact ((Settings.idPrefix_eq_ok_iff taskHolds.inside).mp assigned).1

/-- A schedule ends as the run of the workers one after the other does. -/
theorem ending_of_finished
    {scenario : Scenario Source}
    {state : State}
    {ending : RunEnd}
    (holds : scenario.Holds state)
    (finished : state.phase = .finished ending) :
    ending = scenario.run.ending := by
  have phaseHolds := holds.phase
  simp only [PhaseHolds, finished] at phaseHolds
  rcases phaseHolds with ⟨⟨fault, faults, faulted⟩, _⟩ | ⟨all, ends, _⟩
  · rw [run, Settings.run, faults, faulted]
  · have assigns := assigned_of_allJoined holds all
    have arrive := (holds.arrivals_of_allJoined all).1
    rw [records_of_allJoined holds all] at arrive
    have ran := Settings.run_of_arrivals assigns arrive
    have same := Report.collect_eq_of_perm
      (arrivals_perm_of_allJoined holds all) scenario.ordered_arrivals
    rw [run, ran, ends, same]
    rfl

/-- The report does not depend on the order in which the workers end. Ends that
come in any order are collected into the report of the workers run one after
the other, which tells of each how it ended. A schedule collects that report,
and ends as that run does even when it cannot spawn its workers. -/
structure OrderFree (scenario : Scenario Source) : Prop where
  collected : ∀ completed, completed.Perm scenario.arrivals ->
    Report.collect completed = Report.collect scenario.arrivals
  told : ∀ list, scenario.settings.assignments = .ok list ->
    scenario.ToldBy (Report.collect scenario.arrivals)
  scheduled : ∀ state, scenario.Reachable state ->
    scenario.AllJoined state ->
      Report.collect state.arrivals = Report.collect scenario.arrivals
  ended : ∀ state ending, scenario.Reachable state ->
    state.phase = .finished ending -> ending = scenario.run.ending

/-- A run whose workers all end has the same report in whatever order they
do. -/
theorem orderFree_of_ends
    {scenario : Scenario Source}
    (ends : ∀ index < scenario.settings.workers.toNat,
      (scenario.record index).ending ≠ .endless) :
    scenario.OrderFree := by
  have ordered := scenario.ordered_arrivals
  refine ⟨?_, ?_, ?_, ?_⟩
  · intro completed order
    exact Report.collect_eq_of_perm order ordered
  · intro list assigns
    exact toldBy_collect assigns ends
  · intro state reached all
    have holds := holds_of_reachable reached
    exact Report.collect_eq_of_perm (arrivals_perm_of_allJoined holds all)
      ordered
  · intro state ending reached finished
    exact ending_of_finished (holds_of_reachable reached) finished

/-- A run of two workers with one stream of one letter each, the first of which
is refused. -/
def halfRefused : Scenario KeyStream :=
  { settings := { Settings.smallest with workers := 2 }
    watched := fun _ => true
    network := fun party firstId =>
      if party = .worker 0 then
        .error .refused
      else
        Peer.connect firstId (.listening .obliging)
    sourceOf := fun _ => .seeded 2 }

theorem orderFree_halfRefused :
    (∀ index < halfRefused.settings.workers.toNat,
      (halfRefused.record index).ending ≠ .endless) ∧
      halfRefused.OrderFree := by
  have ends : ∀ index < halfRefused.settings.workers.toNat,
      (halfRefused.record index).ending ≠ .endless := by
    intro index inside
    obtain rfl | rfl : index = 0 ∨ index = 1 := by
      have bound : index < 2 := inside
      omega
    · have refused : (halfRefused.record 0).ending =
          .returned (.error (.connect halfRefused.settings.endpoint
            .refused)) := by
        have drawn : Plan.draw halfRefused.settings.limits
            (halfRefused.sourceOf (UInt64.ofNat 0)) = _ :=
          Settings.draw_smallest
        unfold record Settings.workerRecord Settings.runWorker
        rw [drawn]
        rfl
      rw [refused]
      nofun
    · have page : PageSize.ofBytes halfRefused.settings.pageSize =
          .ok .standard := by rfl
      have met : halfRefused.network (.worker 1)
          (halfRefused.settings.firstId 1) =
            Peer.connect (halfRefused.settings.firstId 1)
              (.listening .obliging) := by rfl
      obtain ⟨summary, returned⟩ : ∃ summary,
          (halfRefused.record 1).ending = .returned (.ok summary) :=
        Settings.returned_of_acknowledged Settings.draw_smallest
          Settings.yielded_smallest rfl (by decide) (by decide) page met
          Script.takesAll_reliable rfl
      rw [returned]
      nofun
  exact ⟨ends, orderFree_of_ends ends⟩

end Scenario
end StreamLoad

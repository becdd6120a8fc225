import StreamLoad.Run.Report

/-!
# Collecting a report

What a report collects depends on the ends that come in, not on their order:
outcomes are put in the order of the workers, and the rest is counted.
-/

namespace StreamLoad
namespace Report

namespace Arrival

/-- The outcome that comes in, unless the worker was cut off. -/
def outcome? : Arrival -> Option Outcome
  | .outcome ended => some ended
  | .aborted _ => none

/-- The worker was cut off. -/
def isAborted : Arrival -> Bool
  | .outcome _ => false
  | .aborted _ => true

@[simp] theorem outcome?_outcome (ended : Outcome) :
    (outcome ended).outcome? = some ended := rfl

@[simp] theorem outcome?_aborted (fault : Fault) :
    (aborted fault).outcome? = none := rfl

@[simp] theorem isAborted_outcome (ended : Outcome) :
    (outcome ended).isAborted = false := rfl

@[simp] theorem isAborted_aborted (fault : Fault) :
    (aborted fault).isAborted = true := rfl

end Arrival

theorem foldl_record (report : Report) (arrivals : List Arrival) :
    arrivals.foldl record report =
      { report with
        outcomes := report.outcomes ++ arrivals.filterMap Arrival.outcome?
        aborted := report.aborted + arrivals.countP Arrival.isAborted } := by
  induction arrivals generalizing report with
  | nil => simp
  | cons arrival arrivals hypothesis =>
      rw [List.foldl_cons, hypothesis]
      cases arrival with
      | outcome ended => simp [record]
      | aborted fault =>
          simp [record, List.filterMap_cons, List.countP_cons, Nat.add_assoc,
            Nat.add_comm 1]

theorem collect_eq (arrivals : List Arrival) :
    collect arrivals =
      { outcomes := (arrivals.filterMap Arrival.outcome?).mergeSort
          fun left right => left.worker ≤ right.worker
        aborted := arrivals.countP Arrival.isAborted
        shutdownSent := false } := by
  rw [collect, foldl_record]
  simp [sorted, empty]

/-- Every end that comes in is an outcome or counted as cut off. -/
theorem length_filterMap_add_countP (arrivals : List Arrival) :
    (arrivals.filterMap Arrival.outcome?).length +
      arrivals.countP Arrival.isAborted = arrivals.length := by
  induction arrivals with
  | nil => rfl
  | cons arrival arrivals hypothesis =>
      rw [List.length_cons, ← hypothesis]
      cases arrival with
      | outcome ended => simp [Nat.add_right_comm]
      | aborted fault =>
          simp [List.filterMap_cons, List.countP_cons, Nat.add_assoc]

/-- The outcomes of some ends stand in the order of the workers. -/
def Ordered (arrivals : List Arrival) : Prop :=
  (arrivals.filterMap Arrival.outcome?).Pairwise fun left right =>
    left.worker < right.worker

/-- Outcomes in the order of the workers stay as they are. -/
theorem collect_of_ordered
    {arrivals : List Arrival}
    (ordered : Ordered arrivals) :
    collect arrivals =
      { outcomes := arrivals.filterMap Arrival.outcome?
        aborted := arrivals.countP Arrival.isAborted
        shutdownSent := false } := by
  rw [collect_eq, List.mergeSort_of_pairwise]
  apply ordered.imp
  intro left right before
  exact decide_eq_true (UInt64.le_of_lt before)

/-- Two outcomes of one worker are the same when no worker comes twice. -/
theorem eq_of_worker_eq
    {outcomes : List Outcome}
    (ordered : outcomes.Pairwise fun left right =>
      left.worker < right.worker)
    {first second : Outcome}
    (firstMember : first ∈ outcomes)
    (secondMember : second ∈ outcomes)
    (same : first.worker = second.worker) : first = second := by
  have apart : outcomes.Pairwise fun left right =>
      left.worker = right.worker -> left = right :=
    ordered.imp fun before equal =>
      absurd (equal ▸ before) (UInt64.lt_irrefl _)
  have flipped : outcomes.Pairwise fun left right =>
      right.worker = left.worker -> right = left :=
    ordered.imp fun before equal =>
      absurd (equal ▸ before) (UInt64.lt_irrefl _)
  exact List.Pairwise.forall_of_forall_of_flip (fun _ _ _ => rfl) apart
    flipped firstMember secondMember same

/-- Ends that come in any order are collected as in the order of the
workers. -/
theorem collect_eq_of_perm
    {completed arrivals : List Arrival}
    (order : completed.Perm arrivals)
    (ordered : Ordered arrivals) :
    collect completed = collect arrivals := by
  have outcomes : (completed.filterMap Arrival.outcome?).mergeSort
      (fun left right => left.worker ≤ right.worker) =
        arrivals.filterMap Arrival.outcome? := by
    refine List.Perm.eq_of_pairwise ?_ (List.pairwise_mergeSort ?_ ?_ _)
      (ordered.imp ?_) ?_
    · intro left right leftMember rightMember least greatest
      have member : left ∈ arrivals.filterMap Arrival.outcome? :=
        (order.filterMap _).mem_iff.mp (List.mem_mergeSort.mp leftMember)
      exact eq_of_worker_eq ordered member rightMember
        (UInt64.le_antisymm (of_decide_eq_true least)
          (of_decide_eq_true greatest))
    · intro left middle right first second
      exact decide_eq_true (UInt64.le_trans (of_decide_eq_true first)
        (of_decide_eq_true second))
    · intro left right
      rcases UInt64.le_total left.worker right.worker with least | greatest
      · simp [least]
      · simp [greatest]
    · intro left right before
      exact decide_eq_true (UInt64.le_of_lt before)
    · exact (List.mergeSort_perm _ _).trans (order.filterMap _)
  rw [collect_eq, collect_of_ordered ordered, outcomes,
    order.countP_eq]

end Report
end StreamLoad

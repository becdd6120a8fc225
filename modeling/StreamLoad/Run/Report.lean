import StreamLoad.Session.Basic

/-!
# Reports

A report lists how the workers of a run ended, in the order of the workers,
and how many were cut off by a fault. It is collected in whatever order the
workers come to an end. Counts and totals are taken over it; each is a fault
from `2 ^ 64` on.
-/

namespace StreamLoad

/-- How a worker that came to an end by itself ended. -/
structure Outcome where
  worker : UInt64
  idPrefix : UInt64
  result : Except SessionError SessionSummary

namespace Outcome

/-- The summary of a worker that succeeded. -/
def summary? (outcome : Outcome) : Option SessionSummary :=
  match outcome.result with
  | .ok summary => some summary
  | .error _ => none

/-- The worker succeeded. -/
def succeeded (outcome : Outcome) : Bool :=
  outcome.summary?.isSome

end Outcome

/-- What is known at the end of a run. -/
structure Report where
  outcomes : List Outcome
  aborted : Nat
  shutdownSent : Bool

namespace Report

/-- A report of no worker. -/
def empty : Report := { outcomes := [], aborted := 0, shutdownSent := false }

/-- The summaries of the workers that succeeded. -/
def summaries (report : Report) : List SessionSummary :=
  report.outcomes.filterMap Outcome.summary?

/-- The number of workers that succeeded. -/
def succeeded (report : Report) : Nat :=
  report.outcomes.countP Outcome.succeeded

/-- The number of workers that failed or were cut off. -/
def failed (report : Report) : Except Fault Nat :=
  checkedCount (report.outcomes.length - report.succeeded) report.aborted

/-- No worker failed. -/
def isSuccess (report : Report) : Except Fault Bool :=
  report.failed.map fun count => count == 0

/-- The number of all workers that ended. -/
def total (report : Report) : Except Fault Nat :=
  checkedCount report.outcomes.length report.aborted

/-- The number of streams that successful workers sent. -/
def totalStreams (report : Report) : Except Fault Nat :=
  (report.summaries.map fun summary => summary.streams).foldlM checkedCount 0

/-- The number of body bytes that successful workers sent. -/
def totalBytes (report : Report) : Except Fault UInt64 :=
  checkedSum (report.summaries.map fun summary => summary.bytes)

/-- The end of one worker, as it comes in. -/
inductive Arrival
  | outcome (outcome : Outcome)
  | aborted (fault : Fault)

/-- The report after one more worker has ended. -/
def record (report : Report) : Arrival -> Report
  | .outcome outcome =>
      { report with outcomes := report.outcomes ++ [outcome] }
  | .aborted _ => { report with aborted := report.aborted + 1 }

/-- Put the outcomes in the order of the workers. -/
def sorted (report : Report) : Report :=
  { report with
    outcomes := report.outcomes.mergeSort fun left right =>
      left.worker ≤ right.worker }

/-- The report of workers that end in some order. -/
def collect (arrivals : List Arrival) : Report :=
  (arrivals.foldl record empty).sorted

end Report
end StreamLoad

import StreamLoad.Run.Worker

/-!
# Load runs

A run starts its workers, waits for the end of every one, and then, if it is
told to, connects once more to shut the server down. The workers share nothing,
so a run is described by running them one after the other. Each worker has the
ids from its index times the stride on and a source of its own.
-/

namespace StreamLoad

/-- What became of the connection that shuts the server down. -/
structure TerminatorRecord where
  connection : Option Stream
  ending : Except (Stop SessionError) Unit

/-- How a run ends: with a report, with the error of the shutdown, by a fault
of its own, or never. -/
inductive RunEnd
  | finished (report : Report)
  | shutdownFailed (error : SessionError)
  | faulted (fault : Fault)
  | endless

/-- The words for a shutdown that failed. -/
def shutdownFailureText (error : SessionError) : String :=
  "shutdown session failed: " ++ error.text

/-- What became of a run. -/
structure RunRecord where
  workers : List WorkerRecord
  terminator : Option TerminatorRecord
  ending : RunEnd

namespace TerminatorRecord

/-- The events of the shutdown, in order. -/
def events (record : TerminatorRecord) : List Event :=
  let connected := match record.connection with
    | some _ => [Event.connected]
    | none => []
  let ended := match record.ending with
    | .ok () => [Event.shutdownSent]
    | .error _ => []
  connected ++ ended

end TerminatorRecord

namespace RunRecord

/-- The events of the run: those of each worker, then those of the shutdown. -/
def events (record : RunRecord) : List Event :=
  let ended := match record.ending with
    | .finished _ => [Event.runFinished]
    | _ => []
  Event.runStarting :: record.workers.flatMap WorkerRecord.events ++
    ((record.terminator.map TerminatorRecord.events).getD []) ++ ended

/-- The connections of the run, the one for the shutdown last. -/
def connections (record : RunRecord) : List Stream :=
  record.workers.filterMap WorkerRecord.connection ++
    (record.terminator.bind TerminatorRecord.connection).toList

end RunRecord

namespace Report

/-- Take the counts and totals that a look at the final event needs. -/
def announce (announced : Bool) (report : Report) : Except Fault Unit :=
  if announced then do
    let _ ← report.failed
    let _ ← report.totalStreams
    let _ ← report.totalBytes
    return ()
  else
    .ok ()

/-- The end of a run whose report is complete. -/
def finish (watched : Event -> Bool) (report : Report) : RunEnd :=
  match report.announce (watched .runFinished) with
  | .ok () => .finished report
  | .error fault => .faulted fault

/-- The end of a run whose workers have ended, by the report of the workers and
what became of the shutdown, if there was one. -/
def runEnd (watched : Event -> Bool) (report : Report) :
    Option TerminatorRecord -> RunEnd
  | none => report.finish watched
  | some terminator =>
      match terminator.ending with
      | .ok () => finish watched { report with shutdownSent := true }
      | .error (.failed error) => .shutdownFailed error
      | .error (.halted (.fault fault)) => .faulted fault
      | .error (.halted .endless) => .endless

end Report

namespace Settings

variable {Source : Type} [WordSource Source]

/-- The indices of the workers. -/
def workerIndices (settings : Settings) : List UInt64 :=
  (List.range settings.workers.toNat).map UInt64.ofNat

/-- The workers with their first ids; an id beyond 64 bits is a fault. -/
def assignments (settings : Settings) :
    Except Fault (List (UInt64 × UInt64)) :=
  settings.workerIndices.mapM fun worker => do
    return (worker, ← settings.idPrefix worker)

/-- The workers of a run, one after the other. -/
def runWorkers
    (settings : Settings)
    (watched : Event -> Bool)
    (network : Network)
    (sourceOf : UInt64 -> Source)
    (assigned : List (UInt64 × UInt64)) : List WorkerRecord :=
  assigned.map fun assignment =>
    settings.runWorker (watched .clientRunning) network assignment.1
      assignment.2 (sourceOf assignment.1)

/-- Shut the server down over a connection of its own. -/
def runTerminator
    (settings : Settings)
    (network : Network)
    (source : Source) : TerminatorRecord :=
  match network .terminator 0 with
  | .error cause =>
      { connection := none
        ending := .error (.failed (.connect settings.endpoint cause)) }
  | .ok counterpart =>
      match Session.start counterpart.stream 0 .empty source
          settings.sessionOptions with
      | .error fault =>
          { connection := some counterpart.stream
            ending := .error (.halted (.fault fault)) }
      | .ok session =>
          let result := session.shutdown
          { connection := some result.2, ending := result.1 }

/-- The shutdown of a run, if the settings say so. -/
def terminator?
    (settings : Settings)
    (network : Network)
    (sourceOf : UInt64 -> Source) : Option TerminatorRecord :=
  if settings.shutdown then
    some (settings.runTerminator network (sourceOf settings.workers))
  else
    none

/-- Run the workers and then, if the settings say so, shut the server down. -/
def run
    (settings : Settings)
    (watched : Event -> Bool)
    (network : Network)
    (sourceOf : UInt64 -> Source) : RunRecord :=
  match settings.assignments with
  | .error fault =>
      { workers := [], terminator := none, ending := .faulted fault }
  | .ok assigned =>
      let workers := settings.runWorkers watched network sourceOf assigned
      match workers.mapM WorkerRecord.arrival? with
      | none => { workers, terminator := none, ending := .endless }
      | some arrivals =>
          let terminator := settings.terminator? network sourceOf
          { workers
            terminator
            ending := (Report.collect arrivals).runEnd watched terminator }

end Settings
end StreamLoad

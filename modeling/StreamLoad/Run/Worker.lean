import StreamLoad.Frame.Receiver
import StreamLoad.Log.Event
import StreamLoad.Run.Report
import StreamLoad.Run.Server
import StreamLoad.Settings.Basic

/-!
# Workers

A worker draws a plan, announces it, connects, and runs one session. A fault
on the way cuts it off and leaves its connection as it is. Announcing the plan
sums up its lengths, so a plan too large is a fault when someone looks at the
announcement and passes unnoticed otherwise.
-/

namespace StreamLoad

/-- How a worker ends. -/
inductive WorkerEnd
  | returned (result : Except SessionError SessionSummary)
  | aborted (fault : Fault)
  | endless

namespace WorkerEnd

/-- The end of a worker whose session ends in some way. -/
def ofSession :
    Except (Stop SessionError) SessionSummary -> WorkerEnd
  | .ok summary => .returned (.ok summary)
  | .error (.failed error) => .returned (.error error)
  | .error (.halted (.fault fault)) => .aborted fault
  | .error (.halted .endless) => .endless

end WorkerEnd

/-- What became of a worker: its plan once it is announced, its connection once
it is made, and its end. -/
structure WorkerRecord where
  worker : UInt64
  idPrefix : UInt64
  plan : Option Plan
  connection : Option Stream
  ending : WorkerEnd

namespace WorkerRecord

/-- What the report takes from the worker, nothing if it never ends. -/
def arrival? (record : WorkerRecord) : Option Report.Arrival :=
  match record.ending with
  | .returned result =>
      some (.outcome
        { worker := record.worker, idPrefix := record.idPrefix, result })
  | .aborted fault => some (.aborted fault)
  | .endless => none

/-- The number of streams whose bodies went out whole. -/
def streamsSent (record : WorkerRecord) : Nat :=
  match record.connection with
  | some stream =>
      (receive stream.sent).frames.countP fun frame =>
        frame.header.command == .data
  | none => 0

/-- The events of the worker, in order. -/
def events (record : WorkerRecord) : List Event :=
  let announced := match record.plan with
    | some _ => [Event.clientRunning]
    | none => []
  let connected := match record.connection with
    | some _ => [Event.connected]
    | none => []
  let ended := match record.ending with
    | .returned (.ok _) => [Event.hangupAcknowledged, Event.workerFinished]
    | .returned (.error _) => [Event.workerFailed]
    | .aborted _ => [Event.workerAborted]
    | .endless => []
  Event.workerSpawned :: announced ++ connected ++
    List.replicate record.streamsSent Event.streamSent ++ ended

end WorkerRecord

namespace Settings

variable {Source : Type} [WordSource Source]

/-- Sum up a plan if someone looks at its announcement. -/
def announce (announced : Bool) (plan : Plan) : Except Fault Unit :=
  if announced then plan.totalBytes.map fun _ => () else .ok ()

/-- Run a worker: draw a plan from its source, announce it, connect, and run a
session on the connection. -/
def runWorker
    (settings : Settings)
    (announced : Bool)
    (network : Network)
    (worker idPrefix : UInt64)
    (source : Source) : WorkerRecord :=
  let unplanned (ending : WorkerEnd) : WorkerRecord :=
    { worker, idPrefix, plan := none, connection := none, ending }
  match Plan.draw settings.limits source with
  | (.error (.fault fault), _) => unplanned (.aborted fault)
  | (.error .endless, _) => unplanned .endless
  | (.ok plan, later) =>
      match announce announced plan with
      | .error fault => unplanned (.aborted fault)
      | .ok () =>
          match network (.worker worker) idPrefix with
          | .error cause =>
              { worker, idPrefix, plan := some plan, connection := none
                ending :=
                  .returned (.error (.connect settings.endpoint cause)) }
          | .ok counterpart =>
              match Session.start counterpart.stream idPrefix plan later
                  settings.sessionOptions with
              | .error fault =>
                  { worker, idPrefix, plan := some plan
                    connection := some counterpart.stream
                    ending := .aborted fault }
              | .ok session =>
                  let result := session.run
                  { worker, idPrefix, plan := some plan
                    connection := some result.2
                    ending := .ofSession result.1 }

end Settings
end StreamLoad

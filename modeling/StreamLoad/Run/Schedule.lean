import StreamLoad.Run.Load

/-!
# Schedules of a run

The workers of a run act at the same time. A schedule is a sequence of steps,
each taken by one task: the run spawns the next worker, a worker does what it
does next or comes to its end, the run joins a worker that has ended, or the
run acts for the shutdown. Which task takes the next step is left open. The
trail keeps what was done and by whom.
-/

namespace StreamLoad

/-- All that decides a run beside the order of its steps. -/
structure Scenario (Source : Type) where
  settings : Settings
  watched : Event -> Bool
  network : Network
  sourceOf : UInt64 -> Source

namespace Schedule

/-- Something a task does. -/
inductive Action
  | drawPlan
  | connect (made : Bool)
  | write (bytes : List UInt8)
  | awaitByte
  | close
  deriving DecidableEq, Repr

namespace Action

/-- The bytes that an action puts on a connection. -/
def bytes : Action -> List UInt8
  | .write bytes => bytes
  | _ => []

end Action

/-- What a task does that has tried to connect, given the connection as the
task leaves it. -/
def connectionActions : Option Stream -> List Action
  | none => [.connect false]
  | some stream =>
      .connect true :: stream.accepted.toList.map .write ++
        List.replicate stream.readCount .awaitByte ++
        List.replicate stream.closeCount .close

/-- What a worker does, in order. A worker without a plan does not connect. -/
def workerActions (record : WorkerRecord) : List Action :=
  .drawPlan ::
    match record.plan with
    | none => []
    | some _ => connectionActions record.connection

/-- What the run does for the shutdown, in order. -/
def terminatorActions (record : TerminatorRecord) : List Action :=
  connectionActions record.connection

/-- A worker that has been spawned: what is left for it to do, and whether it
has come to its end. -/
structure Task where
  record : WorkerRecord
  remaining : List Action
  finished : Bool

namespace Task

/-- A worker that has done nothing yet. -/
def fresh (record : WorkerRecord) : Task :=
  { record, remaining := workerActions record, finished := false }

end Task

/-- How far the run itself has come. -/
inductive Phase
  | spawning (next : Nat)
  | joining
  | terminating (remaining : List Action)
  | finished (ending : RunEnd)

/-- Who does something. -/
inductive Actor
  | worker (index : Nat)
  | terminator
  deriving DecidableEq, Repr

/-- A moment of a schedule. The handles are the indices of the tasks that have
been spawned and not yet joined. -/
structure State where
  phase : Phase
  tasks : List Task
  handles : List Nat
  arrivals : List Report.Arrival
  trail : List (Actor × Action)

namespace State

/-- Nothing has been spawned. -/
def initial : State :=
  { phase := .spawning 0, tasks := [], handles := [], arrivals := [],
    trail := [] }

/-- The actions of an actor so far, in order. -/
def actionsBy (state : State) (actor : Actor) : List Action :=
  (state.trail.filter fun entry => entry.1 = actor).map Prod.snd

/-- The bytes that an actor has sent so far. -/
def sentBy (state : State) (actor : Actor) : List UInt8 :=
  (state.actionsBy actor).flatMap Action.bytes

end State
end Schedule

namespace Scenario

open Schedule

variable {Source : Type} [WordSource Source]

/-- What becomes of a worker. -/
def worker
    (scenario : Scenario Source)
    (index idPrefix : UInt64) : WorkerRecord :=
  scenario.settings.runWorker (scenario.watched .clientRunning)
    scenario.network index idPrefix (scenario.sourceOf index)

/-- What becomes of the shutdown, if it comes to it. -/
def terminator (scenario : Scenario Source) : TerminatorRecord :=
  scenario.settings.runTerminator scenario.network
    (scenario.sourceOf scenario.settings.workers)

/-- What becomes of the run when nothing depends on the order of steps. -/
def run (scenario : Scenario Source) : RunRecord :=
  scenario.settings.run scenario.watched scenario.network scenario.sourceOf

/-- One step of some task. -/
inductive Next (scenario : Scenario Source) : State -> State -> Prop
  | spawn
      {state : State}
      {index : Nat}
      {idPrefix : UInt64}
      (phase : state.phase = .spawning index)
      (more : index < scenario.settings.workers.toNat)
      (assigned :
        scenario.settings.idPrefix (UInt64.ofNat index) = .ok idPrefix) :
      Next scenario state
        { state with
          phase := .spawning (index + 1)
          tasks := state.tasks ++
            [.fresh (scenario.worker (UInt64.ofNat index) idPrefix)]
          handles := state.handles ++ [index] }
  | spawnFaults
      {state : State}
      {index : Nat}
      {fault : Fault}
      (phase : state.phase = .spawning index)
      (more : index < scenario.settings.workers.toNat)
      (beyond :
        scenario.settings.idPrefix (UInt64.ofNat index) = .error fault) :
      Next scenario state { state with phase := .finished (.faulted fault) }
  | allSpawned
      {state : State}
      {index : Nat}
      (phase : state.phase = .spawning index)
      (all : index = scenario.settings.workers.toNat) :
      Next scenario state { state with phase := .joining }
  | act
      {state : State}
      {index : Nat}
      {task : Task}
      {action : Action}
      {remaining : List Action}
      (found : state.tasks[index]? = some task)
      (next : task.remaining = action :: remaining) :
      Next scenario state
        { state with
          tasks := state.tasks.set index { task with remaining }
          trail := state.trail ++ [(.worker index, action)] }
  | finish
      {state : State}
      {index : Nat}
      {task : Task}
      (found : state.tasks[index]? = some task)
      (done : task.remaining = [])
      (ends : task.record.arrival?.isSome)
      (running : task.finished = false) :
      Next scenario state
        { state with
          tasks := state.tasks.set index { task with finished := true } }
  | join
      {state : State}
      {index : Nat}
      {task : Task}
      {arrival : Report.Arrival}
      (phase : state.phase = .joining)
      (handle : index ∈ state.handles)
      (found : state.tasks[index]? = some task)
      (finished : task.finished = true)
      (arrives : task.record.arrival? = some arrival) :
      Next scenario state
        { state with
          handles := state.handles.erase index
          arrivals := state.arrivals ++ [arrival] }
  | allJoined
      {state : State}
      (phase : state.phase = .joining)
      (joined : state.handles = [])
      (shutdown : scenario.settings.shutdown = true) :
      Next scenario state
        { state with
          phase := .terminating (terminatorActions scenario.terminator) }
  | terminate
      {state : State}
      {action : Action}
      {remaining : List Action}
      (phase : state.phase = .terminating (action :: remaining)) :
      Next scenario state
        { state with
          phase := .terminating remaining
          trail := state.trail ++ [(.terminator, action)] }
  | conclude
      {state : State}
      (phase : state.phase = .terminating [])
      (ends : scenario.terminator.ending ≠ .error (.halted .endless)) :
      Next scenario state
        { state with
          phase := .finished
            ((Report.collect state.arrivals).runEnd scenario.watched
              (some scenario.terminator)) }
  | concludeWithout
      {state : State}
      (phase : state.phase = .joining)
      (joined : state.handles = [])
      (stays : scenario.settings.shutdown = false) :
      Next scenario state
        { state with
          phase := .finished
            ((Report.collect state.arrivals).runEnd scenario.watched none) }

/-- The moments that some schedule of a run reaches. -/
inductive Reachable (scenario : Scenario Source) : State -> Prop
  | initial : Reachable scenario .initial
  | step
      {before after : State}
      (reached : Reachable scenario before)
      (next : scenario.Next before after) :
      Reachable scenario after

end Scenario
end StreamLoad

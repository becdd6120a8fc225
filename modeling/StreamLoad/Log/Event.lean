/-!
# Log events

The events that a run may log, each with its words, its level, the part of the
program under which it is filed, and the names of the values logged with it.
-/

namespace StreamLoad

/-- How much an event matters; later levels are more detailed. -/
inductive LogLevel
  | error
  | warn
  | info
  | debug
  | trace
  deriving DecidableEq, Repr

namespace LogLevel

/-- The place of a level among the levels. -/
def detail : LogLevel -> Nat
  | .error => 1
  | .warn => 2
  | .info => 3
  | .debug => 4
  | .trace => 5

/-- The name of a level in a log line. -/
def name : LogLevel -> String
  | .error => "ERROR"
  | .warn => "WARN"
  | .info => "INFO"
  | .debug => "DEBUG"
  | .trace => "TRACE"

end LogLevel

/-- What may be logged. -/
inductive Event
  | programStarting
  | runStarting
  | workerSpawned
  | clientRunning
  | connected
  | streamSent
  | hangupAcknowledged
  | workerFinished
  | workerFailed
  | workerAborted
  | shutdownSent
  | runFinished
  | done
  deriving DecidableEq, Repr

namespace Event

/-- The words of an event. -/
def message : Event -> String
  | .programStarting => "Starting lg-loadgen"
  | .runStarting => "Starting load run"
  | .workerSpawned => "Spawning worker"
  | .clientRunning => "Running client"
  | .connected => "Connected to LG"
  | .streamSent => "Sent stream"
  | .hangupAcknowledged => "Hangup acknowledged"
  | .workerFinished => "Worker finished"
  | .workerFailed => "Worker failed"
  | .workerAborted => "Worker task aborted"
  | .shutdownSent => "Sent shutdown"
  | .runFinished => "Load run finished"
  | .done => "done"

/-- The level of an event. -/
def level : Event -> LogLevel
  | .programStarting => .info
  | .runStarting => .info
  | .workerSpawned => .debug
  | .clientRunning => .info
  | .connected => .info
  | .streamSent => .debug
  | .hangupAcknowledged => .trace
  | .workerFinished => .info
  | .workerFailed => .warn
  | .workerAborted => .warn
  | .shutdownSent => .info
  | .runFinished => .info
  | .done => .info

/-- The part of the program under which an event is filed. -/
def target : Event -> String
  | .programStarting => "lg_loadgen"
  | .runStarting => "lg_loadgen::driver"
  | .workerSpawned => "lg_loadgen::driver"
  | .clientRunning => "lg_loadgen::driver"
  | .connected => "lg_loadgen::session"
  | .streamSent => "lg_loadgen::session"
  | .hangupAcknowledged => "lg_loadgen::session"
  | .workerFinished => "lg_loadgen::driver"
  | .workerFailed => "lg_loadgen::driver"
  | .workerAborted => "lg_loadgen::driver"
  | .shutdownSent => "lg_loadgen::driver"
  | .runFinished => "lg_loadgen::driver"
  | .done => "lg_loadgen"

/-- The names of the values logged with an event. -/
def fields : Event -> List String
  | .programStarting =>
      ["message", "endpoint", "workers", "id_stride", "max_streams",
        "max_stream_length", "ack_timeout"]
  | .runStarting => ["message", "endpoint", "workers", "seed"]
  | .workerSpawned => ["message", "worker", "id_prefix"]
  | .clientRunning => ["message", "id_prefix", "streams", "bytes"]
  | .connected => ["message", "local_addr", "id_prefix", "streams"]
  | .streamSent => ["message", "id", "length"]
  | .hangupAcknowledged => ["message", "ack", "id_prefix"]
  | .workerFinished =>
      ["message", "worker", "id_prefix", "streams", "bytes", "local_addr"]
  | .workerFailed => ["message", "worker", "id_prefix", "error"]
  | .workerAborted => ["message", "error"]
  | .shutdownSent => ["message", "endpoint"]
  | .runFinished =>
      ["message", "succeeded", "failed", "streams", "bytes", "shutdown_sent"]
  | .done => ["message"]

/-- The line of an event, without time and values. -/
def line (event : Event) : String :=
  event.level.name ++ " " ++ event.message

end Event
end StreamLoad

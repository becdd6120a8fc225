import StreamLoad.Session.Basic
import StreamLoad.Settings.CommandLine
import StreamLoad.Settings.File

/-!
# Settings

The settings of a run come from the command line, else from the settings file,
else from the defaults. They are checked once, so that no two streams of a run
share an id and no id needs more than 64 bits: the ids of one worker have to
fit into its stride, and the last id of the last worker into a word.
-/

namespace StreamLoad

/-- Everything that a run is told. -/
structure Settings where
  endpoint : Endpoint
  workers : UInt64
  idStride : UInt64
  limits : Limits
  pageSize : UInt64
  seed : Option UInt64
  shutdown : Bool
  ackTimeout : Option Duration
  logLevel : String
  deriving DecidableEq, Repr

/-- A rule that settings break. -/
inductive Violation
  | noWorkers
  | noStreams
  | noStreamLength
  | noPageSize
  | narrowStride (idStride maxStreams : UInt64)
  | idSpaceExceeded
  deriving DecidableEq, Repr

namespace Violation

/-- The wording of a broken rule. -/
def message : Violation -> String
  | .noWorkers => "workers must be at least 1"
  | .noStreams => "max_streams must be at least 1"
  | .noStreamLength => "max_stream_length must be at least 1"
  | .noPageSize => "page_size must be at least 1"
  | .narrowStride idStride maxStreams =>
      "id_stride " ++ toString idStride.toNat ++
        " is smaller than max_streams " ++ toString maxStreams.toNat ++
        "; stream ids would overlap"
  | .idSpaceExceeded =>
      "workers * id_stride overflows the 64-bit stream id space"

end Violation

/-- Why there are no settings: the file cannot be read, the file is not well
formed, or the settings break a rule. -/
inductive SettingsError
  | unreadable (path : String) (cause : TransportError)
  | malformed (path : String)
  | invalid (reason : String)
  deriving DecidableEq, Repr

namespace SettingsError

/-- The error as it is shown to a person. What is wrong with a malformed file
is not told. -/
def text : SettingsError -> String
  | .unreadable path cause =>
      "Failed to read config file '" ++ path ++ "': " ++ cause.text
  | .malformed path => "Failed to parse config file '" ++ path ++ "'"
  | .invalid reason => "Invalid configuration: " ++ reason

end SettingsError

namespace Settings

/-- The settings that hold when nothing else is said. -/
def standard : Settings :=
  { endpoint := { host := "127.0.0.1", port := 12777 }
    workers := 5
    idStride := 10000
    limits := { maxStreams := 10, maxStreamLength := 131072 }
    pageSize := 4096
    seed := none
    shutdown := true
    ackTimeout := none
    logLevel := "info" }

/-- The log level: the command line's word unless it is the standard one. -/
def chooseLogLevel (line file : Option String) : String :=
  match line with
  | some level =>
      if level = standard.logLevel then
        file.getD standard.logLevel
      else
        level
  | none => file.getD standard.logLevel

/-- Take each setting from the command line, else from the file, else from the
defaults. -/
def merge (line : CommandLine) (file : SettingsFile) : Settings :=
  { endpoint :=
      { host := (line.host <|> file.host).getD standard.endpoint.host
        port := (line.port <|> file.port).getD standard.endpoint.port }
    workers := (line.workers <|> file.workers).getD standard.workers
    idStride := (line.idStride <|> file.idStride).getD standard.idStride
    limits :=
      { maxStreams := file.maxStreams.getD standard.limits.maxStreams
        maxStreamLength :=
          file.maxStreamLength.getD standard.limits.maxStreamLength }
    pageSize := file.pageSize.getD standard.pageSize
    seed := line.seed <|> file.seed
    shutdown := !line.noShutdown && file.shutdown.getD standard.shutdown
    ackTimeout :=
      (line.ackTimeout <|> file.ackTimeout).map fun count =>
        .ofMilliseconds count.toNat
    logLevel := chooseLogLevel line.logLevel file.logLevel }

/-- The greatest id that the last worker may use, or a fault beyond 64 bits. -/
def lastId (settings : Settings) : Except Fault UInt64 :=
  match checkedMul (settings.workers - 1) settings.idStride with
  | .error fault => .error fault
  | .ok lastPrefix => checkedAdd lastPrefix (settings.limits.maxStreams - 1)

/-- The first rule that settings break. -/
def violation? (settings : Settings) : Option Violation :=
  if settings.workers = 0 then
    some .noWorkers
  else if settings.limits.maxStreams = 0 then
    some .noStreams
  else if settings.limits.maxStreamLength = 0 then
    some .noStreamLength
  else if settings.pageSize = 0 then
    some .noPageSize
  else if settings.idStride < settings.limits.maxStreams then
    some (.narrowStride settings.idStride settings.limits.maxStreams)
  else
    match settings.lastId with
    | .ok _ => none
    | .error _ => some .idSpaceExceeded

/-- Merge what the command line and the file say, and check the result. -/
def resolve (line : CommandLine) (file : SettingsFile) :
    Except SettingsError Settings :=
  let settings := merge line file
  match settings.violation? with
  | some violation => .error (.invalid violation.message)
  | none => .ok settings

/-- What every session is told. -/
def sessionOptions (settings : Settings) : SessionOptions :=
  { pageSize := settings.pageSize, ackTimeout := settings.ackTimeout }

/-- The first stream id of a worker. -/
def idPrefix (settings : Settings) (worker : UInt64) : Except Fault UInt64 :=
  checkedMul worker settings.idStride

end Settings
end StreamLoad

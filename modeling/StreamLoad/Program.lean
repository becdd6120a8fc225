import StreamLoad.Log.Filter
import StreamLoad.Run.Load

/-!
# The program

The whole program as a function: from the arguments, the files, the log filter
of the environment and the network, to the exit status, the error and the
events that were logged. A command line that cannot be used ends the program
with status 2, any other error with status 1, and a fault outside the workers
with status 101.
-/

namespace StreamLoad

/-- Why the program does not succeed. -/
inductive ProgramError
  | settings (error : SettingsError)
  | shutdown (error : SessionError)
  | workersFailed (failed total : Nat)

namespace ProgramError

/-- The error with its parts spelled out. What is wrong with a malformed file
is not told. -/
def shape : ProgramError -> String
  | .settings (.unreadable path cause) =>
      "FileRead(" ++ quoted path ++ ", " ++ cause.shape ++ ")"
  | .settings (.malformed path) => "TomlParse(" ++ quoted path ++ ")"
  | .settings (.invalid reason) => "Invalid(" ++ quoted reason ++ ")"
  | .shutdown error => "Shutdown(" ++ error.shape ++ ")"
  | .workersFailed failed total =>
      quoted (toString failed ++ " of " ++ toString total ++ " workers failed")

end ProgramError

/-- How the program ends. -/
inductive ProgramEnd
  | success
  | usage (error : UsageError)
  | failure (error : ProgramError)
  | fault (cause : Fault)
  | endless

namespace ProgramEnd

/-- The exit status, if the program ends. -/
def status? : ProgramEnd -> Option Nat
  | .success => some 0
  | .usage .helpRequested => some 0
  | .usage .versionRequested => some 0
  | .usage _ => some 2
  | .failure _ => some 1
  | .fault _ => some 101
  | .endless => none

end ProgramEnd

/-- What the program has done when it ends: the run, if it came to one, and
the events that were logged. -/
structure ProgramRecord where
  ending : ProgramEnd
  run : Option RunRecord
  events : List Event

/-- The text printed for the version. -/
def versionText : String := "lg-loadgen 0.1.0"

/-- What the program finds where it is started. -/
structure Surroundings where
  arguments : List String
  files : String -> Except TransportError String
  logFilter : Option String
  network : Network
  entropy : UInt64 -> KeyStream

namespace Settings

/-- The random source of a worker: seeded by the seed plus the index, or from
the surroundings when there is no seed. -/
def sourceOf
    (settings : Settings)
    (entropy : UInt64 -> KeyStream)
    (worker : UInt64) : KeyStream :=
  match settings.seed with
  | some seed => .seeded (seed + worker)
  | none => entropy worker

end Settings

namespace CommandLine

/-- The settings file that the command line names, or an empty one. -/
def readSettings
    (line : CommandLine)
    (files : String -> Except TransportError String) :
    Except SettingsError SettingsFile :=
  match line.configPath with
  | none => .ok .empty
  | some path =>
      match files path with
      | .error cause => .error (.unreadable path cause)
      | .ok document =>
          match SettingsFile.parse? document with
          | some file => .ok file
          | none => .error (.malformed path)

/-- The settings that the command line and its settings file give. -/
def load
    (line : CommandLine)
    (files : String -> Except TransportError String) :
    Except SettingsError Settings :=
  match line.readSettings files with
  | .error error => .error error
  | .ok file => Settings.resolve line file

end CommandLine

namespace Report

/-- How the program ends after a report. -/
def programEnd (report : Report) : ProgramEnd :=
  match report.failed, report.total with
  | .ok failed, .ok total =>
      if failed = 0 then
        .success
      else
        .failure (.workersFailed failed total)
  | .error fault, _ => .fault fault
  | .ok failed, .error fault => if failed = 0 then .success else .fault fault

end Report

namespace Surroundings

/-- Run with settings that hold, logging what a filter lets pass. -/
def runFiltered
    (surroundings : Surroundings)
    (settings : Settings)
    (filter : LogFilter) : ProgramRecord :=
  let record := settings.run filter.passes surroundings.network
    (settings.sourceOf surroundings.entropy)
  let ending := match record.ending with
    | .finished report => report.programEnd
    | .shutdownFailed error => .failure (.shutdown error)
    | .faulted fault => .fault fault
    | .endless => .endless
  let closing := match ending with
    | .success => [Event.done]
    | _ => []
  { ending
    run := some record
    events := (Event.programStarting :: record.events ++ closing).filter
      filter.passes }

/-- Run with settings that hold. A filter that cannot be read without a fault
ends the program before the run. -/
def runWith (surroundings : Surroundings) (settings : Settings) :
    ProgramRecord :=
  match LogFilter.choose surroundings.logFilter settings.logLevel with
  | .ok filter => surroundings.runFiltered settings filter
  | .error fault => { ending := .fault fault, run := none, events := [] }

/-- Run the program. -/
def run (surroundings : Surroundings) : ProgramRecord :=
  match CommandLine.parse surroundings.arguments with
  | .error error => { ending := .usage error, run := none, events := [] }
  | .ok line =>
      match line.load surroundings.files with
      | .error error =>
          { ending := .failure (.settings error), run := none, events := [] }
      | .ok settings => surroundings.runWith settings

end Surroundings
end StreamLoad

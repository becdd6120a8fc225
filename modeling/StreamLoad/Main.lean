import Std.Async.DNS
import Std.Async.TCP
import Std.Async.Timer
import StreamLoad.Program

/-!
# The command

The program at work on real connections. What a session writes does not depend
on what comes back, so the writes are computed first, over a network that takes
everything. They are then carried out, all workers at once, and what happened
is handed back as the script of each connection. The result of the program is
its result over that network.
-/

namespace StreamLoad
namespace Launch

open Std.Async
open Std.Net

/-- The code and words of an operating system's error. -/
def systemDetails : IO.Error -> Nat × String
  | .alreadyExists _ code details => (code.toNat, details)
  | .otherError code details => (code.toNat, details)
  | .resourceBusy code details => (code.toNat, details)
  | .resourceVanished code details => (code.toNat, details)
  | .unsupportedOperation code details => (code.toNat, details)
  | .hardwareFault code details => (code.toNat, details)
  | .unsatisfiedConstraints code details => (code.toNat, details)
  | .illegalOperation code details => (code.toNat, details)
  | .protocolError code details => (code.toNat, details)
  | .timeExpired code details => (code.toNat, details)
  | .interrupted _ code details => (code.toNat, details)
  | .noFileOrDirectory _ code details => (code.toNat, details)
  | .invalidArgument _ code details => (code.toNat, details)
  | .permissionDenied _ code details => (code.toNat, details)
  | .resourceExhausted _ code details => (code.toNat, details)
  | .inappropriateType _ code details => (code.toNat, details)
  | .noSuchThing _ code details => (code.toNat, details)
  | .unexpectedEof => (0, "unexpected end of file")
  | .userError details => (0, details)

/-- The positive code of an operating system's error, which some calls report
as its negative in 32 bits. -/
def positiveCode (code : Nat) : Nat :=
  if UInt32.size / 2 ≤ code then UInt32.size - code else code

/-- The transport error that an operating system's error stands for. -/
def transportError (error : IO.Error) : TransportError :=
  let (reported, details) := systemDetails error
  let code := positiveCode reported
  match code with
  | 2 => .noSuchFile
  | 101 => .unreachable
  | 104 => .reset
  | 111 => .refused
  | 32 => { kind := .brokenPipe, wording := .system 32 "Broken pipe" }
  | 110 => { kind := .timedOut, wording := .system 110 "Connection timed out" }
  | 0 => { kind := .other, wording := .custom details }
  | _ => { kind := .other, wording := .system code details }

/-- The address of an endpoint, looked up unless it is written in numbers. -/
def resolve (endpoint : Endpoint) : Async SocketAddress := do
  let address (ip : IPAddr) : SocketAddress :=
    match ip with
    | .v4 addr => .v4 { addr, port := endpoint.port }
    | .v6 addr => .v6 { addr, port := endpoint.port }
  match IPv4Addr.ofString endpoint.host, IPv6Addr.ofString endpoint.host with
  | some ip, _ => return address (.v4 ip)
  | none, some ip => return address (.v6 ip)
  | none, none =>
      let found ← DNS.getAddrInfo endpoint.host ""
      match found[0]? with
      | some ip => return address ip
      | none => throw (.userError "failed to lookup address information")

/-- Wait for one byte on a connection, up to a limit. -/
def awaitByte (client : TCP.Socket.Client) (limit : Option Duration) :
    Async ReadItem := do
  let itemOf (read : Option ByteArray) : ReadItem :=
    match read.bind fun bytes => bytes[0]? with
    | some byte => .byte byte
    | none => .closed
  try
    match limit with
    | none => return itemOf (← client.recv? 1)
    | some span =>
        let timer ← Selector.sleep
          (.ofNat (span.nanoseconds / 1000000))
        Selectable.one #[
          .case (client.recvSelector 1) fun read => return itemOf read,
          .case timer fun _ => return .pending]
  catch error =>
    return .error (transportError error)

/-- Carry out writes one after the other. The answer is the first that failed,
by its number, with its error. -/
def carryOut (client : TCP.Socket.Client) :
    Nat -> List (List UInt8) -> Async (Option (Nat × TransportError))
  | _, [] => return none
  | attempt, bytes :: rest => do
      let failure? : Option IO.Error ←
        try
          client.send (ByteArray.mk bytes.toArray)
          pure none
        catch error =>
          pure (some error)
      match failure? with
      | some error => return some (attempt, transportError error)
      | none => carryOut client (attempt + 1) rest

/-- Repeat on a real connection what a session wrote on a planned one, and give
back what happened as a script. -/
def repeatOn
    (endpoint : Endpoint)
    (limit : Option Duration)
    (planned : Stream) : Async (Except TransportError Counterpart) := do
  try
    let address ← resolve endpoint
    let client ← TCP.Socket.Client.mk
    client.connect address
    client.keepAlive true 7200
    match ← carryOut client 0 planned.accepted.toList with
    | some failure =>
        return .ok {
          script := { Script.reliable with failFrom := some failure }
          incoming := [] }
    | none =>
        let incoming ← if planned.readCount = 0 then
            pure []
          else do
            pure [← awaitByte client limit]
        if planned.closeCount ≠ 0 then
          try client.shutdown catch _ => pure ()
        return .ok { script := .reliable, incoming }
  catch error =>
    return .error (transportError error)

/-- The network in which each party meets what was observed of it. -/
def observedNetwork
    (observed : List (Party × Except TransportError Counterpart)) : Network :=
  fun party _ => (observed.lookup party).getD (.error .unreachable)

/-- Carry out a planned run: all workers at once, then the shutdown. -/
def carryOutRun (settings : Settings) (planned : RunRecord) : IO Network := do
  let limit := settings.ackTimeout
  let started ← planned.workers.filterMapM fun record => do
    match record.connection with
    | some stream =>
        let task ← (repeatOn settings.endpoint limit stream).toIO
        return some (Party.worker record.worker, task)
    | none => return none
  let workers ← started.mapM fun entry => do
    return (entry.1, ← entry.2.block)
  match planned.terminator.bind TerminatorRecord.connection with
  | some stream =>
      let met ← (repeatOn settings.endpoint limit stream).block
      return observedNetwork (workers ++ [(.terminator, met)])
  | none => return observedNetwork workers

/-- Read the settings file that the arguments name. -/
def readFiles (arguments : List String) :
    IO (String -> Except TransportError String) := do
  match CommandLine.parse arguments with
  | .ok { configPath := some path, .. } =>
      let contents : Except TransportError String ←
        try
          pure (.ok (← IO.FS.readFile path))
        catch error =>
          pure (.error (transportError error))
      return fun _ => contents
  | _ => return fun _ => .error .noSuchFile

/-- A seed for the word sources of a run that is given none. -/
def freshSeed : IO UInt64 := do
  let bytes ← IO.getRandomBytes 8
  return UInt64.ofNat (LittleEndian.decode bytes.toList)

/-- Where the program is started, over a network that takes everything. -/
def surroundings (arguments : List String) : IO Surroundings := do
  let seed ← freshSeed
  return {
    arguments
    files := ← readFiles arguments
    logFilter := ← IO.getEnv "RUST_LOG"
    network := (Peer.listening .obliging).network
    entropy := fun worker => .seeded (seed + worker) }

/-- The settings that the program will run with, if it comes to a run. -/
def plannedSettings? (planned : Surroundings) : Option Settings :=
  match CommandLine.parse planned.arguments with
  | .ok line => (line.load planned.files).toOption
  | .error _ => none

/-- The words for a command line that cannot be used. -/
def usageText : UsageError -> String
  | .unknownArgument => "error: unexpected argument found"
  | .missingValue => "error: a value is required for an option"
  | .malformedValue => "error: invalid value for an option"
  | .repeatedOption => "error: an option cannot be used multiple times"
  | .unexpectedValue => "error: unexpected value for an option"
  | .helpRequested => "Usage: lg-loadgen [OPTIONS]"
  | .versionRequested => versionText

/-- Print what the program has logged and how it ended. -/
def announce (record : ProgramRecord) : IO UInt32 := do
  for event in record.events do
    IO.println event.line
  match record.ending with
  | .success => pure ()
  | .usage .helpRequested => IO.println (usageText .helpRequested)
  | .usage .versionRequested => IO.println (usageText .versionRequested)
  | .usage error => IO.eprintln (usageText error)
  | .failure error => IO.eprintln ("Error: " ++ error.shape)
  | .fault cause => IO.eprintln cause.message
  | .endless => pure ()
  return UInt32.ofNat (record.ending.status?.getD 1)

/-- Plan the run, carry it out, and announce its result. -/
def run (arguments : List String) : IO UInt32 := do
  let planned ← surroundings arguments
  match plannedSettings? planned, planned.run.run with
  | some settings, some record =>
      let network ← carryOutRun settings record
      announce { planned with network }.run
  | _, _ => announce planned.run

end Launch
end StreamLoad

/-- The command. -/
def main (arguments : List String) : IO UInt32 :=
  StreamLoad.Launch.run arguments

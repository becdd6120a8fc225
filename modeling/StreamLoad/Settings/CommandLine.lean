/-!
# Command lines

A command line consists of options with a value, flags without one, and
nothing else. An option takes its value from the same argument or from the
next one; in the second case it is pending, and it is settled only when the
next option or the end comes. Each option may be given once. Asking for help or
for the version ends the reading like an error.
-/

namespace StreamLoad

/-- Why a command line gives no settings. -/
inductive UsageError
  | unknownArgument
  | missingValue
  | malformedValue
  | repeatedOption
  | unexpectedValue
  | helpRequested
  | versionRequested
  deriving DecidableEq, Repr

/-- The options that have a value. -/
inductive ValueOption
  | config
  | host
  | port
  | workers
  | idStride
  | seed
  | ackTimeout
  | logLevel
  deriving DecidableEq, Repr

/-- The options that have none. -/
inductive Flag
  | noShutdown
  | help
  | version
  deriving DecidableEq, Repr

/-- What a command line says; what it leaves open is absent. -/
structure CommandLine where
  configPath : Option String
  host : Option String
  port : Option UInt16
  workers : Option UInt64
  idStride : Option UInt64
  seed : Option UInt64
  ackTimeout : Option UInt64
  logLevel : Option String
  noShutdown : Bool
  deriving DecidableEq, Repr

namespace CommandLine

/-- A command line without arguments. -/
def empty : CommandLine :=
  { configPath := none, host := none, port := none, workers := none,
    idStride := none, seed := none, ackTimeout := none, logLevel := none,
    noShutdown := false }

/-- The number that decimal digits write; there has to be one digit. -/
def decimal? (characters : List Char) : Option Nat :=
  if !characters.isEmpty && characters.all Char.isDigit then
    some (characters.foldl
      (fun number digit => 10 * number + (digit.toNat - '0'.toNat)) 0)
  else
    none

/-- A 64-bit number, perhaps with a plus sign. -/
def word? (text : String) : Option UInt64 :=
  let number? := match text.toList with
    | '+' :: digits => decimal? digits
    | digits => decimal? digits
  match number? with
  | some number =>
      if number < UInt64.size then some (UInt64.ofNat number) else none
  | none => none

/-- A port, perhaps with a sign; only zero may have a minus. -/
def port? (text : String) : Option UInt16 :=
  let number? := match text.toList with
    | '+' :: digits => decimal? digits
    | '-' :: digits => (decimal? digits).filter (· == 0)
    | digits => decimal? digits
  match number? with
  | some number =>
      if number < UInt16.size then some (UInt16.ofNat number) else none
  | none => none

/-- Take a value that has been given once and reads well. -/
def settle
    {Value : Type}
    (present : Option Value)
    (read : Except UsageError Value) :
    Except UsageError (Option Value) :=
  match present with
  | some _ => .error .repeatedOption
  | none => read.map some

/-- A reading that fails only by a malformed value. -/
def wellFormed {Value : Type} (read : Option Value) :
    Except UsageError Value :=
  match read with
  | some value => .ok value
  | none => .error .malformedValue

/-- Give an option its value. A repetition is reported before a bad value; an
empty path counts as missing. -/
def give (option : ValueOption) (text : String) (line : CommandLine) :
    Except UsageError CommandLine :=
  match option with
  | .config => do
      let path := if text.isEmpty then .error .missingValue else .ok text
      return { line with configPath := ← settle line.configPath path }
  | .host => return { line with host := ← settle line.host (.ok text) }
  | .port =>
      return { line with
        port := ← settle line.port (wellFormed (port? text)) }
  | .workers =>
      return { line with
        workers := ← settle line.workers (wellFormed (word? text)) }
  | .idStride =>
      return { line with
        idStride := ← settle line.idStride (wellFormed (word? text)) }
  | .seed =>
      return { line with
        seed := ← settle line.seed (wellFormed (word? text)) }
  | .ackTimeout =>
      return { line with
        ackTimeout := ← settle line.ackTimeout (wellFormed (word? text)) }
  | .logLevel =>
      return { line with logLevel := ← settle line.logLevel (.ok text) }

/-- Raise a flag. -/
def raise (flag : Flag) (line : CommandLine) :
    Except UsageError CommandLine :=
  match flag with
  | .help => .error .helpRequested
  | .version => .error .versionRequested
  | .noShutdown =>
      if line.noShutdown then
        .error .repeatedOption
      else
        .ok { line with noShutdown := true }

/-- The option or flag of a long name. -/
def longName? (name : String) : Option (ValueOption ⊕ Flag) :=
  match name with
  | "config" => some (.inl .config)
  | "host" => some (.inl .host)
  | "port" => some (.inl .port)
  | "workers" => some (.inl .workers)
  | "id-stride" => some (.inl .idStride)
  | "seed" => some (.inl .seed)
  | "ack-timeout-ms" => some (.inl .ackTimeout)
  | "log-level" => some (.inl .logLevel)
  | "no-shutdown" => some (.inr .noShutdown)
  | "help" => some (.inr .help)
  | "version" => some (.inr .version)
  | _ => none

/-- The option or flag of a letter. -/
def shortName? (letter : Char) : Option (ValueOption ⊕ Flag) :=
  match letter with
  | 'c' => some (.inl .config)
  | 'p' => some (.inl .port)
  | 'w' => some (.inl .workers)
  | 'h' => some (.inr .help)
  | 'V' => some (.inr .version)
  | _ => none

/-- What one argument is on its own. -/
inductive Argument
  /-- Two dashes: no options follow. -/
  | barrier
  /-- An option or flag, and the text given with it, if any. -/
  | named (name : ValueOption ⊕ Flag) (attached : Option String)
  /-- A name that no option has. -/
  | unknown
  /-- Anything else, which can only be the value of a pending option. -/
  | plain (text : String)

/-- The text behind an equals sign, if that is what comes first. -/
def behindEquals : List Char -> Option String
  | '=' :: rest => some (String.ofList rest)
  | _ => none

/-- What one argument is on its own. -/
def classify (argument : String) : Argument :=
  match argument.toList with
  | ['-', '-'] => .barrier
  | '-' :: '-' :: rest =>
      let name := String.ofList (rest.takeWhile (· != '='))
      match longName? name with
      | some found =>
          .named found (behindEquals (rest.dropWhile (· != '=')))
      | none => .unknown
  | '-' :: letter :: rest =>
      match shortName? letter, rest with
      | some (.inl option), '=' :: value =>
          .named (.inl option) (some (String.ofList value))
      | some (.inl option), [] => .named (.inl option) none
      | some (.inl option), value =>
          .named (.inl option) (some (String.ofList value))
      | some (.inr flag), _ => .named (.inr flag) none
      | none, _ => .unknown
  | _ => .plain argument

/-- An option whose value stands in an argument of its own, and that value once
it has come. -/
structure PendingOption where
  option : ValueOption
  value : Option String

/-- A command line that has been read up to some argument, with the option
that is not yet settled. -/
structure Reading where
  line : CommandLine
  pending : Option PendingOption

namespace Reading

/-- Settle the pending option with the value that has come for it. -/
def settlePending (reading : Reading) : Except UsageError CommandLine :=
  match reading.pending with
  | none => .ok reading.line
  | some { option, value := some text } => reading.line.give option text
  | some { option := _, value := none } => .error .missingValue

/-- Read one more argument other than the barrier. What no option takes is
reported before anything that is wrong with the pending option. -/
def readArgument (argument : Argument) (reading : Reading) :
    Except UsageError Reading :=
  match argument with
  | .barrier => .ok reading
  | .unknown => .error .unknownArgument
  | .plain text =>
      match reading.pending with
      | some { option, value := none } =>
          .ok { reading with pending := some { option, value := some text } }
      | some { option := _, value := some _ } => .error .unknownArgument
      | none => .error .unknownArgument
  | .named (.inr flag) attached =>
      match attached with
      | some _ => .error .unexpectedValue
      | none => do
          let line ← reading.settlePending
          return { line := ← line.raise flag, pending := none }
  | .named (.inl option) attached => do
      let line ← reading.settlePending
      match attached with
      | some text => return { line := ← line.give option text, pending := none }
      | none => return { line, pending := some { option, value := none } }

/-- Read the remaining arguments. Behind the barrier nothing may follow. -/
def readAll : List String -> Reading -> Except UsageError CommandLine
  | [], reading => reading.settlePending
  | argument :: rest, reading =>
      match classify argument with
      | .barrier =>
          if rest.isEmpty then
            reading.settlePending
          else
            .error .unknownArgument
      | other => do
          readAll rest (← reading.readArgument other)

end Reading

/-- Read the arguments of a command line. -/
def parse (arguments : List String) : Except UsageError CommandLine :=
  Reading.readAll arguments { line := .empty, pending := none }

end CommandLine
end StreamLoad

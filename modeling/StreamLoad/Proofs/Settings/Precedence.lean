import StreamLoad.Program
import StreamLoad.Proofs.Settings.Arguments

/-!
# The layers of settings

A setting comes from the text of its option on the command line, without such
a text from the value of its key in the settings file, and without such a key
from its default. The log level alone does not keep to this order: its default
on the command line counts as no text, so that it gives way to any other level
in the file.
-/

namespace StreamLoad
namespace SettingsFile
namespace Section

/-- The value that a section has by a name or by a position. -/
def at? (name : String) (position : Nat) : Section -> Option Toml.Value
  | .named entries => entries.get? name
  | .listed items => items[position]?

variable {Result : Type} {name : String} {position : Nat}
variable {read : Toml.Value -> Option Result} {fields : Section}
variable {result : Option Result}

theorem map_at?_of_field?
    (found : fields.field? name position read = some result) :
    (fields.at? name position).map read = result.map some := by
  cases fields
  all_goals
    simp only [field?] at found
    split at found
    next value present =>
      obtain ⟨value, reads, rfl⟩ := Option.map_eq_some_iff.mp found
      simp [at?, present, reads]
    next absent =>
      cases found
      simp [at?, absent]

theorem map_at?_of_fieldListed?
    (found : fields.fieldListed? name position read = some result) :
    (fields.at? name position).map read = result.map some := by
  apply map_at?_of_field?
  cases fields with
  | named entries => exact found
  | listed items =>
      simp only [fieldListed?] at found
      split at found
      next => exact found
      next => cases found

end Section

/-- The value of a key in the entries of a document: of a name, or of a
position, in a section. -/
def keyOf
    (table name : String)
    (position : Nat)
    (entries : Toml.Entries) : Option Toml.Value :=
  (Section.find? table entries).bind fun fields => fields.at? name position

variable {Result : Type} {table name : String} {position : Nat}
variable {readValue : Toml.Value -> Option Result} {entries : Toml.Entries}
variable {fields : Section} {result : Option Result}

theorem map_keyOf_of_field?
    (found : Section.find? table entries = some fields)
    (read : fields.field? name position readValue = some result) :
    (keyOf table name position entries).map readValue = result.map some := by
  rw [keyOf, found, Option.bind_some]
  exact Section.map_at?_of_field? read

theorem map_keyOf_of_fieldListed?
    (found : Section.find? table entries = some fields)
    (read : fields.fieldListed? name position readValue = some result) :
    (keyOf table name position entries).map readValue = result.map some := by
  rw [keyOf, found, Option.bind_some]
  exact Section.map_at?_of_fieldListed? read

/-- A settings file has the values that the keys of a document stand for, and
leaves open what has no key. -/
structure ReadFrom
    (file : SettingsFile)
    (entries : Toml.Entries) : Prop where
  host : (keyOf "server" "host" 0 entries).map text? = file.host.map some
  port : (keyOf "server" "port" 1 entries).map port? = file.port.map some
  workers :
    (keyOf "load" "workers" 0 entries).map word? = file.workers.map some
  idStride :
    (keyOf "load" "id_stride" 1 entries).map word? = file.idStride.map some
  maxStreams :
    (keyOf "load" "max_streams" 2 entries).map word? =
      file.maxStreams.map some
  maxStreamLength :
    (keyOf "load" "max_stream_length" 3 entries).map word? =
      file.maxStreamLength.map some
  pageSize :
    (keyOf "load" "page_size" 4 entries).map word? = file.pageSize.map some
  seed : (keyOf "load" "seed" 5 entries).map word? = file.seed.map some
  shutdown :
    (keyOf "load" "shutdown" 6 entries).map boolean? = file.shutdown.map some
  ackTimeout :
    (keyOf "session" "ack_timeout_ms" 0 entries).map word? =
      file.ackTimeout.map some
  logLevel :
    (keyOf "logging" "level" 0 entries).map text? = file.logLevel.map some

theorem readFrom_of_ofEntries?
    {file : SettingsFile}
    (read : ofEntries? entries = some file) : file.ReadFrom entries := by
  unfold ofEntries? at read
  obtain ⟨server, inServer, read⟩ := Option.bind_eq_some_iff.mp read
  obtain ⟨load, inLoad, read⟩ := Option.bind_eq_some_iff.mp read
  obtain ⟨session, inSession, read⟩ := Option.bind_eq_some_iff.mp read
  obtain ⟨logging, inLogging, read⟩ := Option.bind_eq_some_iff.mp read
  obtain ⟨_, host, read⟩ := Option.bind_eq_some_iff.mp read
  obtain ⟨_, port, read⟩ := Option.bind_eq_some_iff.mp read
  obtain ⟨_, workers, read⟩ := Option.bind_eq_some_iff.mp read
  obtain ⟨_, idStride, read⟩ := Option.bind_eq_some_iff.mp read
  obtain ⟨_, maxStreams, read⟩ := Option.bind_eq_some_iff.mp read
  obtain ⟨_, maxStreamLength, read⟩ := Option.bind_eq_some_iff.mp read
  obtain ⟨_, pageSize, read⟩ := Option.bind_eq_some_iff.mp read
  obtain ⟨_, seed, read⟩ := Option.bind_eq_some_iff.mp read
  obtain ⟨_, shutdown, read⟩ := Option.bind_eq_some_iff.mp read
  obtain ⟨_, ackTimeout, read⟩ := Option.bind_eq_some_iff.mp read
  obtain ⟨_, logLevel, read⟩ := Option.bind_eq_some_iff.mp read
  cases read
  exact
    { host := map_keyOf_of_field? inServer host
      port := map_keyOf_of_field? inServer port
      workers := map_keyOf_of_field? inLoad workers
      idStride := map_keyOf_of_field? inLoad idStride
      maxStreams := map_keyOf_of_field? inLoad maxStreams
      maxStreamLength := map_keyOf_of_field? inLoad maxStreamLength
      pageSize := map_keyOf_of_field? inLoad pageSize
      seed := map_keyOf_of_fieldListed? inLoad seed
      shutdown := map_keyOf_of_field? inLoad shutdown
      ackTimeout := map_keyOf_of_fieldListed? inSession ackTimeout
      logLevel := map_keyOf_of_field? inLogging logLevel }

end SettingsFile

namespace Settings

/-- A setting has the value that its key stands for, and its default if there
is no such key. -/
def FromKey
    {Value : Type}
    (key : Option Toml.Value)
    (readKey : Toml.Value -> Option Value)
    (default value : Value) : Prop :=
  match key with
  | some found => readKey found = some value
  | none => value = default

/-- A setting has the value that the text of its option stands for; without
such a text it comes from its key or is its default. -/
def Layered
    {Value : Type}
    (text : Option String)
    (readText : String -> Option Value)
    (key : Option Toml.Value)
    (readKey : Toml.Value -> Option Value)
    (default value : Value) : Prop :=
  match text with
  | some given => readText given = some value
  | none => FromKey key readKey default value

section Layers

variable {Result Value : Type}
variable {text : Option String} {key : Option Toml.Value}
variable {readText : String -> Option Result}
variable {readKey : Toml.Value -> Option Result}
variable {line file : Option Result} {default : Result}

theorem FromKey.iff_eq
    {value other : Result}
    (holds : FromKey key readKey default value) :
    FromKey key readKey default other ↔ other = value := by
  cases key with
  | none =>
      simp only [FromKey] at holds ⊢
      rw [holds]
  | some found =>
      simp only [FromKey] at holds ⊢
      rw [holds, Option.some.injEq, eq_comm]

theorem fromKey_getD
    (kept : key.map readKey = file.map some) :
    FromKey key readKey default (file.getD default) := by
  cases key <;> cases file <;> simp_all [FromKey]

theorem layered_getD
    (given : text.map readText = line.map some)
    (kept : key.map readKey = file.map some) :
    Layered text readText key readKey default
      ((line <|> file).getD default) := by
  cases text with
  | none =>
      cases line with
      | none => exact fromKey_getD kept
      | some value => simp at given
  | some text => cases line <;> simp_all [Layered]

/-- A setting without a default is layered as well, also when its value is
written in another way. -/
theorem layered_map
    (given : text.map readText = line.map some)
    (kept : key.map readKey = file.map some)
    (convert : Result -> Value) :
    Layered text (fun given => (readText given).map (some ∘ convert)) key
      (fun found => (readKey found).map (some ∘ convert)) none
      ((line <|> file).map convert) := by
  cases text <;> cases line <;> cases key <;> cases file <;>
    simp_all [Layered, FromKey]

end Layers

/-- The text that the command line gives for the log level. The default counts
as none. -/
def heededLevel (text : Option String) : Option String :=
  text.filter (· != "info")

theorem heededLevel_of_ne {level : String} (other : level ≠ "info") :
    heededLevel (some level) = some level := by
  simp [heededLevel, Option.filter_some, other]

theorem layered_chooseLogLevel
    {line file : Option String}
    {key : Option Toml.Value}
    (kept : key.map SettingsFile.text? = file.map some) :
    Layered (heededLevel line) some key SettingsFile.text? "info"
      (chooseLogLevel line file) := by
  have fromFile :
      FromKey key SettingsFile.text? "info" (file.getD "info") :=
    fromKey_getD kept
  cases line with
  | none => exact fromFile
  | some level =>
      by_cases standardLevel : level = "info"
      · subst standardLevel
        exact fromFile
      · simp [heededLevel_of_ne, standardLevel, Layered, chooseLogLevel,
          standard]

/-- A log level for which the default counts as no text is layered if and only
if the default was not asked for against another level in the file. -/
theorem layered_iff_of_heeded
    {text : Option String}
    {key : Option Toml.Value}
    {readKey : Toml.Value -> Option String}
    {level : String}
    (heeded : Layered (heededLevel text) some key readKey "info" level) :
    Layered text some key readKey "info" level ↔
      (text = some "info" -> FromKey key readKey "info" "info") := by
  cases text with
  | none => simpa [Layered, heededLevel] using heeded
  | some given =>
      by_cases standardLevel : given = "info"
      · subst standardLevel
        have fromFile : FromKey key readKey "info" level := heeded
        simp [Layered, fromFile.iff_eq]
      · simpa [heededLevel_of_ne, standardLevel, Layered] using heeded

/-- Settings come from their layers: from the arguments of a command line, the
entries of a document, and the defaults. No option is given twice. A raised
flag keeps the server running; without it that is up to the file. The log level
is layered but for its default on the command line. -/
structure FromLayers
    (settings : Settings)
    (arguments : List String)
    (entries : Toml.Entries) : Prop where
  once : ((CommandLine.valuesIn arguments).map Prod.fst).Nodup
  host : Layered (CommandLine.textOf .host arguments) some
    (SettingsFile.keyOf "server" "host" 0 entries) SettingsFile.text?
    "127.0.0.1" settings.endpoint.host
  port : Layered (CommandLine.textOf .port arguments) CommandLine.port?
    (SettingsFile.keyOf "server" "port" 1 entries) SettingsFile.port?
    12777 settings.endpoint.port
  workers : Layered (CommandLine.textOf .workers arguments)
    CommandLine.word? (SettingsFile.keyOf "load" "workers" 0 entries)
    SettingsFile.word? 5 settings.workers
  idStride : Layered (CommandLine.textOf .idStride arguments)
    CommandLine.word? (SettingsFile.keyOf "load" "id_stride" 1 entries)
    SettingsFile.word? 10000 settings.idStride
  seed : Layered (CommandLine.textOf .seed arguments)
    (fun text => (CommandLine.word? text).map some)
    (SettingsFile.keyOf "load" "seed" 5 entries)
    (fun found => (SettingsFile.word? found).map some) none settings.seed
  ackTimeout : Layered (CommandLine.textOf .ackTimeout arguments)
    (fun text => (CommandLine.word? text).map fun count =>
      some (.ofMilliseconds count.toNat))
    (SettingsFile.keyOf "session" "ack_timeout_ms" 0 entries)
    (fun found => (SettingsFile.word? found).map fun count =>
      some (.ofMilliseconds count.toNat)) none settings.ackTimeout
  heededLevel :
    Layered (heededLevel (CommandLine.textOf .logLevel arguments)) some
      (SettingsFile.keyOf "logging" "level" 0 entries) SettingsFile.text?
      "info" settings.logLevel
  logLevel : Layered (CommandLine.textOf .logLevel arguments) some
      (SettingsFile.keyOf "logging" "level" 0 entries) SettingsFile.text?
      "info" settings.logLevel ↔
    (CommandLine.textOf .logLevel arguments = some "info" ->
      FromKey (SettingsFile.keyOf "logging" "level" 0 entries)
        SettingsFile.text? "info" "info")
  keptRunning : .noShutdown ∈ CommandLine.flagsIn arguments ->
    settings.shutdown = false
  shutdown : .noShutdown ∉ CommandLine.flagsIn arguments ->
    FromKey (SettingsFile.keyOf "load" "shutdown" 6 entries)
      SettingsFile.boolean? true settings.shutdown
  maxStreams : FromKey (SettingsFile.keyOf "load" "max_streams" 2 entries)
    SettingsFile.word? 10 settings.limits.maxStreams
  maxStreamLength :
    FromKey (SettingsFile.keyOf "load" "max_stream_length" 3 entries)
      SettingsFile.word? 131072 settings.limits.maxStreamLength
  pageSize : FromKey (SettingsFile.keyOf "load" "page_size" 4 entries)
    SettingsFile.word? 4096 settings.pageSize

theorem fromLayers_merge
    {arguments : List String}
    {entries : Toml.Entries}
    {line : CommandLine}
    {file : SettingsFile}
    (parsed : CommandLine.parse arguments = .ok line)
    (read : SettingsFile.ofEntries? entries = some file) :
    (merge line file).FromLayers arguments entries := by
  have given := CommandLine.readFrom_of_parse parsed
  have kept := SettingsFile.readFrom_of_ofEntries? read
  have heeded : Layered (heededLevel (CommandLine.textOf .logLevel arguments))
      some (SettingsFile.keyOf "logging" "level" 0 entries)
      SettingsFile.text? "info" (merge line file).logLevel := by
    rw [CommandLine.textOf, given.tells .logLevel]
    exact layered_chooseLogLevel kept.logLevel
  exact
    { once := given.once
      host := layered_getD (congrArg _ (given.tells .host)) kept.host
      port := layered_getD (given.tells .port) kept.port
      workers := layered_getD (given.tells .workers) kept.workers
      idStride := layered_getD (given.tells .idStride) kept.idStride
      seed := by
        simpa [merge, CommandLine.textOf] using
          layered_map (given.tells .seed) kept.seed id
      ackTimeout := layered_map (given.tells .ackTimeout) kept.ackTimeout _
      heededLevel := heeded
      logLevel := layered_iff_of_heeded heeded
      keptRunning := by
        intro raised
        simp [merge, given.noShutdown.mpr raised]
      shutdown := by
        intro silent
        have notRaised : line.noShutdown = false :=
          Bool.eq_false_iff.mpr (mt given.noShutdown.mp silent)
        simpa [merge, notRaised, standard] using
          fromKey_getD kept.shutdown
      maxStreams := fromKey_getD kept.maxStreams
      maxStreamLength := fromKey_getD kept.maxStreamLength
      pageSize := fromKey_getD kept.pageSize }

theorem eq_merge_of_resolve
    {line : CommandLine}
    {file : SettingsFile}
    {settings : Settings}
    (resolved : resolve line file = .ok settings) :
    settings = merge line file := by
  unfold resolve at resolved
  dsimp only at resolved
  split at resolved
  next => cases resolved
  next =>
    cases resolved
    rfl

/-- Settings that pass the check come from their layers, whatever the
arguments of the command line and the entries of the document are. -/
theorem fromLayers_of_resolve
    {arguments : List String}
    {entries : Toml.Entries}
    {line : CommandLine}
    {file : SettingsFile}
    {settings : Settings}
    (parsed : CommandLine.parse arguments = .ok line)
    (read : SettingsFile.ofEntries? entries = some file)
    (resolved : resolve line file = .ok settings) :
    settings.FromLayers arguments entries := by
  cases eq_merge_of_resolve resolved
  exact fromLayers_merge parsed read

/-- Arguments that give some options in each of the ways there are, one of them
the default. -/
def mixedArguments : List String :=
  ["-p", "9100", "-w5", "--seed=7", "--log-level", "warn", "--no-shutdown"]

/-- What the arguments say. -/
def mixedLine : CommandLine :=
  { CommandLine.empty with
    port := some 9100
    workers := some 5
    seed := some 7
    logLevel := some "warn"
    noShutdown := true }

/-- The entries of a document with some of the same settings and some
others. -/
def mixedEntries : Toml.Entries :=
  [("server", .table .header
      [("host", .text "10.0.0.2"), ("port", .integer 9000)]),
    ("load", .table .header
      [("workers", .integer 8), ("shutdown", .boolean true)])]

/-- What the document says. -/
def mixedFile : SettingsFile :=
  { SettingsFile.empty with
    host := some "10.0.0.2"
    port := some 9000
    workers := some 8
    shutdown := some true }

/-- The settings that both come to. -/
def mixed : Settings :=
  { standard with
    endpoint := { host := "10.0.0.2", port := 9100 }
    seed := some 7
    shutdown := false
    logLevel := "warn" }

theorem fromLayers_mixed :
    CommandLine.parse mixedArguments = .ok mixedLine ∧
      SettingsFile.ofEntries? mixedEntries = some mixedFile ∧
      resolve mixedLine mixedFile = .ok mixed ∧
      mixed.FromLayers mixedArguments mixedEntries := by
  have parsed : CommandLine.parse mixedArguments = .ok mixedLine := by rfl
  have read : SettingsFile.ofEntries? mixedEntries = some mixedFile := by rfl
  have resolved : resolve mixedLine mixedFile = .ok mixed := by rfl
  exact ⟨parsed, read, resolved, fromLayers_of_resolve parsed read resolved⟩

/-- Arguments that ask for the standard log level. -/
def shadowedArguments : List String := ["--log-level", "info"]

/-- What the arguments say. -/
def shadowedLine : CommandLine :=
  { CommandLine.empty with logLevel := some "info" }

/-- A document with another log level. -/
def shadowingDocument : String := "[logging]\nlevel = \"debug\"\n"

/-- What the document says. -/
def shadowingFile : SettingsFile :=
  { SettingsFile.empty with logLevel := some "debug" }

/-- The settings that both come to. -/
def shadowed : Settings := { standard with logLevel := "debug" }

/-- The level that arguments ask for may give way to the one of the file. -/
theorem not_layered_shadowed :
    CommandLine.parse shadowedArguments = .ok shadowedLine ∧
      SettingsFile.parse? shadowingDocument = some shadowingFile ∧
      resolve shadowedLine shadowingFile = .ok shadowed ∧
      CommandLine.textOf .logLevel shadowedArguments = some "info" ∧
      ∀ key, ¬Layered (CommandLine.textOf .logLevel shadowedArguments) some
        key SettingsFile.text? "info" shadowed.logLevel := by
  have asked :
      CommandLine.textOf .logLevel shadowedArguments = some "info" := by rfl
  refine ⟨by rfl, by decide +kernel, by rfl, asked, ?_⟩
  intro key
  rw [asked]
  simp [Layered, shadowed]

end Settings

namespace CommandLine

/-- The entries of the document at a path; without a path there are none to
read. -/
def entriesAt?
    (files : String -> Except TransportError String)
    (path : Option String) : Option Toml.Entries :=
  match path with
  | none => some []
  | some path =>
      match files path with
      | .ok document => Toml.parse? document
      | .error _ => none

theorem exists_entriesAt?_of_readSettings
    {line : CommandLine}
    {files : String -> Except TransportError String}
    {file : SettingsFile}
    (read : line.readSettings files = .ok file) :
    ∃ entries, entriesAt? files line.configPath = some entries ∧
      SettingsFile.ofEntries? entries = some file := by
  unfold readSettings at read
  split at read
  next unnamed =>
    cases read
    exact ⟨[], by simp [entriesAt?, unnamed], by rfl⟩
  next path named =>
    split at read
    next => cases read
    next document present =>
      split at read
      next file parsed =>
        cases read
        simpa [entriesAt?, named, present, SettingsFile.parse?,
          Option.bind_eq_some_iff] using parsed
      next => cases read

/-- The settings that a command line loads come from their layers, of which the
file is the one that its arguments name. -/
theorem fromLayers_of_load
    {arguments : List String}
    {line : CommandLine}
    {files : String -> Except TransportError String}
    {settings : Settings}
    (parsed : parse arguments = .ok line)
    (loaded : line.load files = .ok settings) :
    ∃ entries, entriesAt? files (textOf .config arguments) = some entries ∧
      settings.FromLayers arguments entries := by
  unfold load at loaded
  split at loaded
  next => cases loaded
  next file read =>
    obtain ⟨entries, found, kept⟩ := exists_entriesAt?_of_readSettings read
    cases Settings.eq_merge_of_resolve loaded
    refine ⟨entries, ?_, Settings.fromLayers_merge parsed kept⟩
    rw [textOf, (readFrom_of_parse parsed).tells .config, found]

end CommandLine
end StreamLoad

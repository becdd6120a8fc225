import StreamLoad.Settings.Toml.Document

/-!
# Settings files

A settings file is a TOML document with the sections `server`, `load`,
`session` and `logging`. Names that are not known are passed over. A section
is a table, or a list that gives the values in a fixed order; in a list the
seed and the acknowledgment timeout have to be there. A date in the place of a
section stands for an empty one.
-/

namespace StreamLoad

/-- What a settings file says; what it leaves open is absent. -/
structure SettingsFile where
  host : Option String
  port : Option UInt16
  workers : Option UInt64
  idStride : Option UInt64
  maxStreams : Option UInt64
  maxStreamLength : Option UInt64
  pageSize : Option UInt64
  seed : Option UInt64
  shutdown : Option Bool
  ackTimeout : Option UInt64
  logLevel : Option String
  deriving DecidableEq, Repr

namespace SettingsFile

open Toml

/-- A settings file that leaves everything open. -/
def empty : SettingsFile :=
  { host := none, port := none, workers := none, idStride := none,
    maxStreams := none, maxStreamLength := none, pageSize := none,
    seed := none, shutdown := none, ackTimeout := none, logLevel := none }

/-- A text. -/
def text? : Value -> Option String
  | .text characters => some characters
  | _ => none

/-- A truth value. -/
def boolean? : Value -> Option Bool
  | .boolean value => some value
  | _ => none

/-- A number that is not negative. -/
def word? : Value -> Option UInt64
  | .integer number =>
      if 0 ≤ number then some (UInt64.ofNat number.toNat) else none
  | _ => none

/-- A number of 16 bits that is not negative. -/
def port? : Value -> Option UInt16
  | .integer number =>
      if 0 ≤ number ∧ number < UInt16.size then
        some (UInt16.ofNat number.toNat)
      else
        none
  | _ => none

/-- The values of a section, by name or by position. -/
inductive Section
  | named (entries : Entries)
  | listed (items : List Value)

namespace Section

/-- The section that a value stands for. -/
def ofValue? : Value -> Option Section
  | .table _ entries => some (.named entries)
  | .moment => some (.named [])
  | .array items => some (.listed items)
  | .tables earlier latest =>
      some (.listed ((earlier ++ [latest]).map (Value.table .header)))
  | _ => none

/-- The section of a name; a document need not have it. -/
def find? (name : String) (entries : Entries) : Option Section :=
  match entries.get? name with
  | some value => ofValue? value
  | none => some (.named [])

/-- A value of the section by its name or its position. An absent value is
left open; a present one has to read well. -/
def field?
    {Result : Type}
    (name : String)
    (position : Nat)
    (read : Value -> Option Result)
    (fields : Section) : Option (Option Result) :=
  let found := match fields with
    | .named entries => entries.get? name
    | .listed items => items[position]?
  match found with
  | some value => (read value).map some
  | none => some none

/-- A value that may be absent by name, but not by position. -/
def fieldListed?
    {Result : Type}
    (name : String)
    (position : Nat)
    (read : Value -> Option Result)
    (fields : Section) : Option (Option Result) :=
  match fields with
  | .named _ => fields.field? name position read
  | .listed items =>
      if position < items.length then
        fields.field? name position read
      else
        none

end Section

/-- The settings in the entries of a document. -/
def ofEntries? (entries : Entries) : Option SettingsFile := do
  let server ← Section.find? "server" entries
  let load ← Section.find? "load" entries
  let session ← Section.find? "session" entries
  let logging ← Section.find? "logging" entries
  return {
    host := ← server.field? "host" 0 text?
    port := ← server.field? "port" 1 port?
    workers := ← load.field? "workers" 0 word?
    idStride := ← load.field? "id_stride" 1 word?
    maxStreams := ← load.field? "max_streams" 2 word?
    maxStreamLength := ← load.field? "max_stream_length" 3 word?
    pageSize := ← load.field? "page_size" 4 word?
    seed := ← load.fieldListed? "seed" 5 word?
    shutdown := ← load.field? "shutdown" 6 boolean?
    ackTimeout := ← session.fieldListed? "ack_timeout_ms" 0 word?
    logLevel := ← logging.field? "level" 0 text? }

/-- The settings of a document. -/
def parse? (document : String) : Option SettingsFile := do
  ofEntries? (← Toml.parse? document)

end SettingsFile
end StreamLoad

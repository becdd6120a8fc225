/-!
# Transport errors

An error of the byte stream beneath a session has a kind and a wording: the
kind's own words, words given with the error, or the operating system's words
with its code. An error has a text, which is shown to a person, and a shape,
which spells out its parts.
-/

namespace StreamLoad

/-- The kinds of transport errors. -/
inductive TransportErrorKind
  | brokenPipe
  | connectionReset
  | connectionAborted
  | connectionRefused
  | notConnected
  | networkUnreachable
  | notFound
  | permissionDenied
  | timedOut
  | unexpectedEof
  | wouldBlock
  | writeZero
  | interrupted
  | invalidData
  | invalidInput
  | other
  deriving DecidableEq, Repr

namespace TransportErrorKind

/-- The name of a kind. -/
def name : TransportErrorKind -> String
  | .brokenPipe => "BrokenPipe"
  | .connectionReset => "ConnectionReset"
  | .connectionAborted => "ConnectionAborted"
  | .connectionRefused => "ConnectionRefused"
  | .notConnected => "NotConnected"
  | .networkUnreachable => "NetworkUnreachable"
  | .notFound => "NotFound"
  | .permissionDenied => "PermissionDenied"
  | .timedOut => "TimedOut"
  | .unexpectedEof => "UnexpectedEof"
  | .wouldBlock => "WouldBlock"
  | .writeZero => "WriteZero"
  | .interrupted => "Interrupted"
  | .invalidData => "InvalidData"
  | .invalidInput => "InvalidInput"
  | .other => "Other"

/-- The words of a kind. -/
def text : TransportErrorKind -> String
  | .brokenPipe => "broken pipe"
  | .connectionReset => "connection reset"
  | .connectionAborted => "connection aborted"
  | .connectionRefused => "connection refused"
  | .notConnected => "not connected"
  | .networkUnreachable => "network unreachable"
  | .notFound => "entity not found"
  | .permissionDenied => "permission denied"
  | .timedOut => "timed out"
  | .unexpectedEof => "unexpected end of file"
  | .wouldBlock => "operation would block"
  | .writeZero => "write zero"
  | .interrupted => "operation interrupted"
  | .invalidData => "invalid data"
  | .invalidInput => "invalid input parameter"
  | .other => "other error"

/-- All kinds. -/
def all : List TransportErrorKind :=
  [.brokenPipe, .connectionReset, .connectionAborted, .connectionRefused,
    .notConnected, .networkUnreachable, .notFound, .permissionDenied,
    .timedOut, .unexpectedEof, .wouldBlock, .writeZero, .interrupted,
    .invalidData, .invalidInput, .other]

/-- The kind of a name. -/
def ofName? (name : String) : Option TransportErrorKind :=
  all.find? fun kind => kind.name == name

theorem ofName?_name (kind : TransportErrorKind) :
    ofName? kind.name = some kind := by
  cases kind <;> decide

end TransportErrorKind

/-- The words in which an error is told. -/
inductive Wording
  | standard
  | custom (text : String)
  | system (code : Nat) (text : String)
  deriving DecidableEq, Repr

/-- An error of the byte stream beneath a session. -/
structure TransportError where
  kind : TransportErrorKind
  wording : Wording
  deriving DecidableEq, Repr

/-- A text in double quotes, with quotes, backslashes and line controls
escaped. -/
def quoted (text : String) : String :=
  let escape (character : Char) : List Char :=
    if character = '"' then ['\\', '"']
    else if character = '\\' then ['\\', '\\']
    else if character = '\n' then ['\\', 'n']
    else if character = '\r' then ['\\', 'r']
    else if character = '\t' then ['\\', 't']
    else if character = '\x00' then ['\\', '0']
    else [character]
  "\"" ++ String.ofList (text.toList.flatMap escape) ++ "\""

namespace TransportError

/-- An error told in its kind's own words. -/
def ofKind (kind : TransportErrorKind) : TransportError :=
  { kind, wording := .standard }

/-- The error of a stream that accepts no byte of a write. -/
def writeZero : TransportError := ofKind .writeZero

/-- The operating system found no one listening. -/
def refused : TransportError :=
  { kind := .connectionRefused, wording := .system 111 "Connection refused" }

/-- The operating system found no way to the host. -/
def unreachable : TransportError :=
  { kind := .networkUnreachable,
    wording := .system 101 "Network is unreachable" }

/-- The other side dropped the connection. -/
def reset : TransportError :=
  { kind := .connectionReset,
    wording := .system 104 "Connection reset by peer" }

/-- There is no such file. -/
def noSuchFile : TransportError :=
  { kind := .notFound, wording := .system 2 "No such file or directory" }

/-- The error as it is shown to a person. -/
def text (error : TransportError) : String :=
  match error.wording with
  | .standard => error.kind.text
  | .custom words => words
  | .system code words => words ++ " (os error " ++ toString code ++ ")"

/-- The error with its parts spelled out. -/
def shape (error : TransportError) : String :=
  match error.wording with
  | .standard => "Kind(" ++ error.kind.name ++ ")"
  | .custom words =>
      "Custom \x7b kind: " ++ error.kind.name ++ ", error: " ++
        quoted words ++ " \x7d"
  | .system code words =>
      "Os \x7b code: " ++ toString code ++ ", kind: " ++ error.kind.name ++
        ", message: " ++ quoted words ++ " \x7d"

end TransportError
end StreamLoad

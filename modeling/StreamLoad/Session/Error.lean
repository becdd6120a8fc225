import StreamLoad.Duration
import StreamLoad.Transport.Error

/-!
# Session errors

A session fails when it cannot connect, when a write fails, or when the
acknowledgment of a hangup does not come: because the other side closes,
because the read fails, or because the time is up. A failed connection names the
address of the server.
-/

namespace StreamLoad

/-- The address of a server. -/
structure Endpoint where
  host : String
  port : UInt16
  deriving DecidableEq, Repr

/-- The address as it is shown to a person: a colon stands in front of the
port. -/
def Endpoint.text (endpoint : Endpoint) : String :=
  endpoint.host ++ ":" ++ toString endpoint.port.toNat

/-- Why a session failed. -/
inductive SessionError
  | connect (endpoint : Endpoint) (cause : TransportError)
  | transmit (cause : TransportError)
  | ackClosed
  | ackRead (cause : TransportError)
  | ackTimeout (limit : Duration)
  deriving DecidableEq, Repr

namespace SessionError

/-- The error as it is shown to a person. -/
def text : SessionError -> String
  | .connect endpoint cause =>
      "failed to connect to " ++ endpoint.text ++ ": " ++ cause.text
  | .transmit cause => "transmission failed: " ++ cause.text
  | .ackClosed => "connection closed before hangup was acknowledged"
  | .ackRead cause =>
      "failed to read hangup acknowledgment: " ++ cause.text
  | .ackTimeout limit => "no hangup acknowledgment within " ++ limit.text

/-- The transport error behind a session error. -/
def cause? : SessionError -> Option TransportError
  | .connect _ cause => some cause
  | .transmit cause => some cause
  | .ackClosed => none
  | .ackRead cause => some cause
  | .ackTimeout _ => none

/-- The error with its parts spelled out. -/
def shape : SessionError -> String
  | .connect endpoint cause =>
      "Connect \x7b addr: " ++ quoted endpoint.text ++ ", source: " ++
        cause.shape ++ " \x7d"
  | .transmit cause => "Transmit(" ++ cause.shape ++ ")"
  | .ackClosed => "AckClosed"
  | .ackRead cause => "AckRead(" ++ cause.shape ++ ")"
  | .ackTimeout limit => "AckTimeout(" ++ limit.text ++ ")"

end SessionError
end StreamLoad

import StreamLoad.Session.Basic

/-!
# Histories of a session

A conversation is a session to which requests are put one after the other.
Asking for an id and sending a stream keep the session open, even when they
fail; a run, a hangup and a shutdown end it, even when they fail. A request to
a session that has ended is refused.
-/

namespace StreamLoad

/-- What a session can be asked to do. -/
inductive Request
  | streamId (index : UInt64)
  | sendStream (index : UInt64)
  | run
  | hangup
  | shutdown
  deriving DecidableEq, Repr

namespace Request

/-- The request ends the session to which it is put. -/
def IsFinal : Request -> Prop
  | .streamId _ => False
  | .sendStream _ => False
  | .run => True
  | .hangup => True
  | .shutdown => True

instance (request : Request) : Decidable request.IsFinal := by
  cases request <;> unfold IsFinal <;> infer_instance

end Request

/-- What a request gives when nothing goes wrong. -/
inductive Answer
  | id (id : UInt64)
  | sent (length : UInt64)
  | finished (summary : SessionSummary)
  | shutDown
  deriving DecidableEq, Repr

/-- How a request ends. -/
inductive Reply
  | done (answer : Answer)
  | stopped (stop : Stop SessionError)
  | refused
  deriving DecidableEq, Repr

namespace Reply

/-- The reply of an operation whose success is shown as an answer. -/
def ofExcept
    {Value : Type}
    (toAnswer : Value -> Answer) :
    Except (Stop SessionError) Value -> Reply
  | .ok result => .done (toAnswer result)
  | .error stop => .stopped stop

end Reply

/-- A session that is open, or the stream of one that has ended. -/
inductive Conversation (Source : Type)
  | active (session : Session Source)
  | ended (stream : Stream)

namespace Conversation

variable {Source : Type}

/-- The byte stream of the conversation. -/
def stream : Conversation Source -> Stream
  | .active session => session.stream
  | .ended stream => stream

variable [WordSource Source]

/-- Put a request to an open session. -/
def askActive (session : Session Source) :
    Request -> Reply × Conversation Source
  | .streamId index =>
      match session.streamId index with
      | .ok id => (.done (.id id), .active session)
      | .error fault => (.stopped (.halted (.fault fault)), .active session)
  | .sendStream index =>
      let result := session.sendStream index
      (.ofExcept .sent result.1, .active result.2)
  | .run =>
      let result := session.run
      (.ofExcept .finished result.1, .ended result.2)
  | .hangup =>
      let result := session.hangup
      (.ofExcept .finished result.1, .ended result.2)
  | .shutdown =>
      let result := session.shutdown
      (.ofExcept (fun _ => .shutDown) result.1, .ended result.2)

/-- Put a request to a conversation. -/
def ask (request : Request) : Conversation Source ->
    Reply × Conversation Source
  | .active session => askActive session request
  | .ended stream => (.refused, .ended stream)

/-- Put requests to a conversation, and keep each reply with the conversation
that it leaves. -/
def askAll : List Request -> Conversation Source ->
    List (Reply × Conversation Source)
  | [], _ => []
  | request :: requests, conversation =>
      let outcome := conversation.ask request
      outcome :: askAll requests outcome.2

end Conversation
end StreamLoad

import StreamLoad.Transport.Stream

/-!
# Servers and networks

A network says what each connection attempt of a run meets: a counterpart,
whose script is all that the other side will do, or an error. One kind of
network has a single server at its end, which listens, refuses, or cannot be
reached.
A listening server takes every byte and reacts to a hangup according to the
least stream id that it received on the connection, which is the first id of
the worker.
-/

namespace StreamLoad

/-- What a server does with a hangup. -/
inductive Reaction
  | send (bytes : List UInt8)
  | close
  | reset
  | silence
  deriving DecidableEq, Repr

namespace Reaction

/-- What comes back to a worker that hangs up. -/
def incoming : Reaction -> List ReadItem
  | .send [] => [.pending]
  | .send (byte :: _) => [.byte byte]
  | .close => [.closed]
  | .reset => [.error .reset]
  | .silence => [.pending]

end Reaction

/-- The reactions of a server, by the least stream id of a connection. -/
structure Server where
  reactions : List (UInt64 × Reaction)
  otherwise : Reaction
  deriving DecidableEq, Repr

namespace Server

/-- The server acknowledges every hangup by a byte of value one. -/
def obliging : Server := { reactions := [], otherwise := .send [1] }

/-- The reaction on a connection with some least stream id. -/
def reaction (server : Server) (firstId : UInt64) : Reaction :=
  (server.reactions.lookup firstId).getD server.otherwise

end Server

/-- The other side of a connection: how it takes writes and what it sends. -/
structure Counterpart where
  script : Script
  incoming : List ReadItem
  deriving DecidableEq, Repr

namespace Counterpart

/-- The stream of a connection that has just been made. -/
def stream (counterpart : Counterpart) : Stream :=
  .start counterpart.script counterpart.incoming

end Counterpart

/-- What is at the endpoint of a run. -/
inductive Peer
  | listening (server : Server)
  | refusing
  | unreachable
  deriving DecidableEq, Repr

namespace Peer

/-- What an attempt to connect meets, for a session with some first id. -/
def connect (firstId : UInt64) : Peer -> Except TransportError Counterpart
  | .listening server =>
      .ok
        { script := .reliable
          incoming := (server.reaction firstId).incoming }
  | .refusing => .error .refused
  | .unreachable => .error .unreachable

end Peer

/-- Who connects: a worker, or the run itself for the shutdown. -/
inductive Party
  | worker (index : UInt64)
  | terminator
  deriving DecidableEq, Repr

/-- What a party meets that connects for a session with some first id. -/
abbrev Network : Type := Party -> UInt64 -> Except TransportError Counterpart

namespace Peer

/-- The network in which everyone meets the same peer. -/
def network (peer : Peer) : Network :=
  fun _ firstId => peer.connect firstId

end Peer
end StreamLoad

import RsNetty.Channel.Stream

/-!
# The two ends of a TCP connection

Both ends run a connection task, as `TcpClient::run` and the accept loop of a server start it. The
network hands each task the bytes that the other one has sent, in order and in pieces of any size.
A task that is over drops its socket, so that the other one comes to the end of the stream.
-/

namespace RsNetty

/-- The bytes that an event brings. -/
def Event.bytes {W : Type} : Event W → Bytes
  | .read (.ok bytes) => bytes
  | _ => []

/-- The bytes that an action reads. -/
def ChannelAction.bytes {P : StreamStages} : ChannelAction P → Bytes
  | .read (.ok bytes) => bytes
  | _ => []

/-- One end: its task with its channel, and how many of the bytes sent to it it has read. -/
structure TcpEnd (P : StreamStages) where
  channel : StreamChannel P
  taken : Nat := 0

namespace TcpEnd

variable {P : StreamStages}

/-- What the task has sent. -/
def sent (self : TcpEnd P) : Bytes := self.channel.rt.io.stream.sent

/-- The socket is dropped. -/
def isOver (self : TcpEnd P) : Bool := self.channel.status.isOver

/-- What a read may find: some of the bytes on the way, nothing at the end of the stream, or an
error. -/
def canRead (sent : Bytes) (ended : Bool) (self : TcpEnd P) : ChannelAction P → Bool
  | .read (.ok []) => ended && sent.length ≤ self.taken
  | .read (.ok bytes) => bytes.isPrefixOf (sent.drop self.taken)
  | _ => true

/-- An action at this end, where the other end has sent this much. -/
def step (env : Surroundings) (sent : Bytes) (ended : Bool) (self : TcpEnd P)
    (action : ChannelAction P) : Option (TcpEnd P) :=
  if self.canRead sent ended action then
    (StreamChannel.step env self.channel action).map fun channel =>
      { channel, taken := self.taken + action.bytes.length }
  else none

end TcpEnd

/-- A connection, by its two ends. -/
structure TcpPeers (P Q : StreamStages) where
  left : TcpEnd P
  right : TcpEnd Q

inductive PeersAction (P Q : StreamStages) where
  | left (action : ChannelAction P)
  | right (action : ChannelAction Q)

namespace TcpPeers

variable {P Q : StreamStages}

/-- Two tasks that have just been connected. -/
def new (left : StreamChannel P) (right : StreamChannel Q) : TcpPeers P Q where
  left := { channel := left }
  right := { channel := right }

def step (env : Surroundings) : Machine (TcpPeers P Q) (PeersAction P Q) := fun s action =>
  match action with
  | .left action =>
    (s.left.step env s.right.sent s.right.isOver action).map fun left => { s with left }
  | .right action =>
    (s.right.step env s.left.sent s.left.isOver action).map fun right => { s with right }

end TcpPeers

end RsNetty

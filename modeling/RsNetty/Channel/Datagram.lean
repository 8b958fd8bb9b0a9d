import RsNetty.Theory.Machine
import RsNetty.Transport.Udp.Socket

/-!
# The channel of a UDP socket

The clones of a `DatagramChannel` put commands into a bounded queue, first in first out, from which
the socket task takes them. The task holds a clone itself, so that the queue never runs out of
senders, and it owns the queue until the last life hook has returned.
-/

namespace RsNetty

/-- The calls of the UDP hooks of `Life`. -/
inductive SocketHook where
  | started
  | stopped
deriving DecidableEq

/-- What is seen of the life hooks. -/
inductive SocketLife where
  | called (hook : SocketHook)
  | returned (hook : SocketHook) (result : Except Error Unit)
deriving DecidableEq

/-- How far `run_datagram_socket_with_life` is. -/
inductive SocketPhase where
  | spawned
  /-- It awaits `udp_socket_started`. -/
  | starting
  | running
  /-- The loop is over, and it awaits `udp_socket_stopped`. -/
  | stopping (result : Except Error Unit)
  /-- It awaits something that never happens. -/
  | hung
  | finished (result : Except Error Unit)
  | panicked
deriving DecidableEq

/-- The task has dropped the receiver of its queue. -/
def SocketPhase.isOver : SocketPhase → Bool
  | .finished _ | .panicked => true
  | .spawned | .starting | .running | .stopping _ | .hung => false

/-- The loop has not ended. -/
def SocketPhase.isOpen : SocketPhase → Bool
  | .spawned | .starting | .running => true
  | .stopping _ | .hung | .finished _ | .panicked => false

/-- The sender that a command carries. -/
def DatagramCommand.done? {W : Type} : DatagramCommand W → Option Sender
  | .writeToAndFlush _ _ done => some done
  | .writeTo _ _ | .close => none

/-- A socket task with its command queue. `next` is the number of one-shot channels that
`write_to_and_flush` has made. `queued` are all commands that were ever put into the queue, `events`
all that the loop has found ready, and `life` all that was seen of the hooks; nothing depends on
these. -/
structure DatagramChannel (P : DatagramStages) where
  rt : DatagramSocketRuntime P
  outboundQueueSize : Nat
  /-- The task was given a receiver of the shutdown signal, as that of a server is. -/
  hasShutdown : Bool
  phase : SocketPhase := .spawned
  queue : List (DatagramCommand P.Write) := []
  next : Sender := 0
  queued : List (DatagramCommand P.Write) := []
  events : List (SocketEvent P.Write) := []
  life : List SocketLife := []

inductive DatagramAction (W : Type) where
  | writeTo (peerAddr : SocketAddr) (msg : W)
  | writeToAndFlush (peerAddr : SocketAddr) (msg : W)
  | close
  /-- The task is polled for the first time, and asks the socket for its address. -/
  | start (localAddr : Except String Unit)
  | started (result : Except Error Unit)
  /-- The task takes a command off the queue. -/
  | recv
  | recvFrom (read : Except String (Bytes × SocketAddr))
  | shutdown
  | stopped (result : Except Error Unit)
  /-- A life hook panics. -/
  | panic

namespace DatagramChannel

variable {P : DatagramStages}

/-- A socket task as it is spawned, with an empty queue. -/
def new (id : UInt64) (localAddr : SocketAddr) (socket : UdpSocket) (pipeline : DatagramPipeline P)
    (config : UdpSocketConfig) (outboundQueueSize : Nat) (hasShutdown : Bool) :
    DatagramChannel P where
  rt := .new id localAddr socket pipeline config
  outboundQueueSize
  hasShutdown

/-- `tx.send(command)` gets through; it waits as long as the queue is full. A closed queue takes
nothing. -/
def send (command : DatagramCommand P.Write) (s : DatagramChannel P) : Option (DatagramChannel P) :=
  if s.phase.isOver then some s
  else if s.queue.length < s.outboundQueueSize then
    some { s with queue := s.queue ++ [command], queued := s.queued ++ [command] }
  else none

/-- The task goes on to this phase, where this is seen of its hooks. -/
def goto (phase : SocketPhase) (life : List SocketLife) (s : DatagramChannel P) :
    DatagramChannel P :=
  { s with phase, life := s.life ++ life }

/-- The task is over, and its queue is dropped. -/
def finish (phase : SocketPhase) (life : List SocketLife) (s : DatagramChannel P) :
    DatagramChannel P :=
  { s.goto phase life with queue := [] }

/-- A turn of the task's loop. -/
def turn (event : SocketEvent P.Write) (queue : List (DatagramCommand P.Write))
    (s : DatagramChannel P) : DatagramChannel P :=
  let after rt : DatagramChannel P := { s with rt, queue, events := s.events ++ [event] }
  match (DatagramSocketRuntime.select event).result s.rt with
  | .ok false rt => after rt
  | .ok true rt => (after rt).goto (.stopping (.ok ())) [.called .stopped]
  | .error (.err err) rt => (after rt).goto (.stopping (.error err)) [.called .stopped]
  | .error .panic rt => (after rt).finish .panicked []
  | .error .hang rt => (after rt).goto .hung []

/-- What the loop finds ready. -/
def select (event : SocketEvent P.Write) (queue : List (DatagramCommand P.Write))
    (s : DatagramChannel P) : Option (DatagramChannel P) :=
  match s.phase with
  | .running => some (s.turn event queue)
  | _ => none

def step : Machine (DatagramChannel P) (DatagramAction P.Write) := fun s action =>
  match action with
  | .writeTo peerAddr msg => s.send (.writeTo peerAddr msg)
  | .writeToAndFlush peerAddr msg =>
    { s with next := s.next + 1 }.send (.writeToAndFlush peerAddr msg s.next)
  | .close => s.send .close
  | .start localAddr =>
    match s.phase, localAddr with
    | .spawned, .ok () => some (s.goto .starting [.called .started])
    | .spawned, .error err => some (s.finish (.finished (.error (.io err))) [])
    | _, _ => none
  | .started result =>
    match s.phase, result with
    | .starting, .ok () => some (s.goto .running [.returned .started (.ok ())])
    | .starting, .error err =>
      some (s.finish (.finished (.error err)) [.returned .started (.error err)])
    | _, _ => none
  | .recv =>
    match s.queue with
    | [] => none
    | command :: queue => s.select (.command (some command)) queue
  | .recvFrom read => s.select (.recv read) s.queue
  | .shutdown => if s.hasShutdown then s.select .shutdown s.queue else none
  | .stopped result =>
    match s.phase with
    | .stopping (.ok ()) => some (s.finish (.finished result) [.returned .stopped result])
    -- The error of the loop is what the task returns, whatever the hook returned.
    | .stopping (.error err) =>
      some (s.finish (.finished (.error err)) [.returned .stopped result])
    | _ => none
  | .panic =>
    match s.phase with
    | .starting | .stopping _ => some (s.finish .panicked [])
    | _ => none

/-- The task holds the sender, in its queue or for good. -/
def holds (done : Sender) (s : DatagramChannel P) : Bool :=
  match s.phase with
  | .spawned | .starting | .running | .stopping _ => s.queue.any (·.done? == some done)
  | .hung => true
  | .finished _ | .panicked => false

/-- What a `write_to_and_flush` that made the one-shot channel `done` has returned, if it has. A
sender that is dropped without a word, like a closed queue, makes it return
`Error::ChannelClosed`. -/
def answer (s : DatagramChannel P) (done : Sender) : Option (Except Error Unit) :=
  match s.rt.acks.lookup done with
  | some ack => some ack
  | none => if s.holds done then none else some (.error .channelClosed)

end DatagramChannel

end RsNetty

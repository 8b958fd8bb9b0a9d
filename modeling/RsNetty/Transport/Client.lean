import RsNetty.Theory.Machine
import RsNetty.Theory.Mpsc

/-!
# Clients and their command queues

A TCP or a UDP client with the senders of its command queue: those of the handle, of the channels
that the application and its handlers cloned, and of the task itself. Of the task, only what it does
with the queue and with the senders is here.
-/

namespace RsNetty

/-- A `StreamCommand`, or a `DatagramCommand` with the peer as part of the message. -/
inductive ClientCommand (W : Type) where
  | write (msg : W)
  | writeAndFlush (msg : W)
  | close

inductive ClientTransport where
  | tcp
  | udp

/-- The `TcpClientHandle` or the `UdpClientHandle` that `run` returns. -/
inductive ClientHandle where
  | held
  /-- The future of `wait` has it, until the task has ended. -/
  | waiting
  | dropped

def ClientHandle.senders : ClientHandle → Nat
  | .held | .waiting => 1
  | .dropped => 0

/-- How far the task of the client is. -/
inductive ClientPhase (W : Type) where
  /-- It is spawned, or awaits the life hook before the loop. -/
  | opening
  | select
  /-- It is in the branch for what it has read, or in the handler. -/
  | read
  | command (command : ClientCommand W)
  /-- The loop is left, and it awaits the life hook after it. -/
  | closing
  | ended

/-- The senders that the task has. The loop of a TCP connection has that of its `Context`, which is
dropped with it. The task of a UDP socket has one until it ends, and clones it for the
`DatagramContext` of each datagram. -/
def ClientPhase.senders {W : Type} (transport : ClientTransport) : ClientPhase W → Nat
  | .opening | .select | .command _ => 1
  | .read =>
    match transport with
    | .tcp => 1
    | .udp => 2
  | .closing =>
    match transport with
    | .tcp => 0
    | .udp => 1
  | .ended => 0

/-- A client. The application has `clones` channels, those that its handlers keep included. -/
structure Client (W : Type) where
  transport : ClientTransport
  handle : ClientHandle
  clones : Nat
  phase : ClientPhase W
  channel : Mpsc (ClientCommand W)

inductive ClientAction (W : Type) where
  /-- `channel` on the handle, or `clone` on a channel. -/
  | clone
  /-- `channel` on the context of the handler. -/
  | contextChannel
  | dropClone
  | wait
  | dropHandle
  | send (command : ClientCommand W)
  | opened (result : Except Unit Unit)
  /-- There is something to read, or an error. -/
  | read
  /-- The branch for it ends, and the loop with it or not. -/
  | leave (stop : Bool)
  | recv
  /-- The command is carried out. -/
  | done (result : Except Unit Unit)
  | idle
  | closed
  | panic

namespace Client
variable {W : Type}

/-- The client as `run` leaves it: the handle has the channel, and the task a clone. The setter of
`outbound_queue_size` raises it to one. -/
def started (transport : ClientTransport) (outboundQueueSize : Nat) : Client W where
  transport
  handle := .held
  clones := 0
  phase := .opening
  channel := { capacity := max outboundQueueSize 1, senders := 2 }

/-- The task goes on, with the senders that it needs there. -/
def goto (phase : ClientPhase W) (client : Client W) : Client W :=
  { client with
    phase
    channel := (client.channel.clone (phase.senders client.transport)).drop
      (client.phase.senders client.transport) }

/-- The application has the handle or a channel. -/
def holds (client : Client W) : Bool :=
  match client.handle, client.clones with
  | .held, _ | _, _ + 1 => true
  | _, 0 => false

/-- `rx` is dropped with the loop of a TCP connection and with the task of a UDP socket. -/
def receives (client : Client W) : Bool :=
  match client.phase, client.transport with
  | .ended, _ | .closing, .tcp => false
  | _, _ => true

def step : Machine (Client W) (ClientAction W) := fun client action =>
  match action with
  | .clone =>
    if client.holds then
      some { client with clones := client.clones + 1, channel := client.channel.clone 1 }
    else none
  | .contextChannel =>
    match client.phase with
    | .read => some { client with clones := client.clones + 1, channel := client.channel.clone 1 }
    | _ => none
  | .dropClone =>
    match client.clones with
    | clones + 1 => some { client with clones, channel := client.channel.drop 1 }
    | 0 => none
  | .wait =>
    match client.handle with
    | .held => some { client with handle := .waiting }
    | _ => none
  | .dropHandle =>
    match client.handle with
    | .held | .waiting => some { client with handle := .dropped, channel := client.channel.drop 1 }
    | .dropped => none
  | .send command =>
    if client.holds && client.receives then
      (client.channel.send command).map fun channel => { client with channel }
    else none
  | .opened result =>
    match client.phase, result with
    | .opening, .ok () => some (client.goto .select)
    | .opening, .error () => some (client.goto .ended)
    | _, _ => none
  | .read =>
    match client.phase with
    | .select => some (client.goto .read)
    | _ => none
  | .leave stop =>
    match client.phase with
    | .read => some (client.goto (if stop then .closing else .select))
    | _ => none
  | .recv =>
    match client.phase with
    | .select =>
      match client.channel.recv with
      | some (some command, channel) => some ({ client with channel }.goto (.command command))
      -- `CloseReason::ChannelClosed`
      | some (none, channel) => some ({ client with channel }.goto .closing)
      | none => none
    | _ => none
  | .done result =>
    match client.phase, result with
    | .command .close, _ | .command _, .error () => some (client.goto .closing)
    | .command _, .ok () => some (client.goto .select)
    | _, _ => none
  | .idle =>
    match client.phase, client.transport with
    | .select, .tcp => some (client.goto .closing)
    | _, _ => none
  | .closed =>
    match client.phase with
    | .closing => some (client.goto .ended)
    | _ => none
  | .panic =>
    match client.phase with
    | .opening | .read | .command _ | .closing => some (client.goto .ended)
    | _ => none

end Client

end RsNetty

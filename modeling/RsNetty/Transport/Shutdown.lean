import RsNetty.Theory.Machine
import RsNetty.Theory.Watch

/-!
# Shutting down servers

The handle of a server asks for a shutdown through a watch channel, which the loops of the server
look at before each `select!` and wait for in it. These are the loops with everything that they do
with that channel; what else they do takes any time and ends in any way. The senders and receivers
of the channel are counted where they are owned.
-/

namespace RsNetty

/-! ## Handles -/

/-- The `TcpServerHandle` or the `UdpServerHandle` that `start` returns. -/
inductive ServerHandle where
  /-- The application has it; so many calls of `shutdown` have found the flag unset. -/
  | held (sending : Nat)
  /-- The future of `wait` has it, until the task of the server has ended. -/
  | waiting
  | dropped

inductive HandleAction where
  /-- A call of `shutdown` looks at the flag. -/
  | shutdown
  /-- Such a call goes on to send. -/
  | send
  | wait
  /-- The handle is dropped, or the future that has it. -/
  | drop

namespace ServerHandle

/-- `shutdown_tx` -/
def senders : ServerHandle → Nat
  | .held _ | .waiting => 1
  | .dropped => 0

def step (flag : Watch Bool) (receivers : Nat) (handle : ServerHandle) :
    HandleAction → Option (ServerHandle × Watch Bool)
  | .shutdown =>
    match handle with
    | .held sending => some (.held (if flag.value then sending else sending + 1), flag)
    | _ => none
  | .send =>
    match handle with
    | .held (sending + 1) => some (.held sending, flag.send receivers true)
    | _ => none
  | .wait =>
    match handle with
    | .held 0 => some (.waiting, flag)
    | _ => none
  | .drop =>
    match handle with
    -- A call of `shutdown` borrows the handle.
    | .held 0 | .waiting => some (.dropped, flag)
    | _ => none

end ServerHandle

/-! ## Loops -/

/-- Why a loop was left. -/
inductive LoopExit where
  | shutdown
  | other
deriving DecidableEq

namespace Shutdown

def requested (flag : Watch Bool) (shutdownRx : Option Watch.Receiver) : Bool :=
  match shutdownRx with
  | some _ => flag.value
  | none => false

/-- What `wait` leaves of the receiver, if it is ready. -/
def wait (senders : Nat) (flag : Watch Bool) : Option Watch.Receiver → Option (Option Watch.Receiver)
  | some shutdownRx => (flag.changed senders shutdownRx).map fun (_, rx) => some rx
  | none => none

end Shutdown

/-- How far the task of a TCP connection or of a UDP socket is. -/
inductive LoopPhase where
  /-- The task is spawned, or awaits the life hook before the loop. -/
  | opening
  | loopHead
  | select
  /-- It is in a branch of the `select!`, other than that for the shutdown. -/
  | branch
  /-- It awaits the life hook after the loop. -/
  | left (exit : LoopExit)
  | ended

/-- The task of a TCP connection or of a UDP socket. -/
structure LoopTask where
  phase : LoopPhase
  shutdownRx : Option Watch.Receiver

inductive LoopAction where
  | opened (result : Except Unit Unit)
  | head
  /-- `shutdown::wait` is ready. -/
  | shutdown
  /-- Another branch is ready. -/
  | enter
  /-- The branch ends, and the loop with it or not. -/
  | leave (stop : Bool)
  | closed
  /-- A stage, the handler or a life hook panics. -/
  | panic

namespace LoopTask

def goto (phase : LoopPhase) (task : LoopTask) : LoopTask := { task with phase }

/-- `run_stream_connection_with_life` or `run_datagram_socket_with_life`. -/
def step (senders : Nat) (flag : Watch Bool) (task : LoopTask) : LoopAction → Option LoopTask
  | .opened result =>
    match task.phase with
    | .opening => some (task.goto (match result with
      | .ok () => .loopHead
      | .error () => .ended))
    | _ => none
  | .head =>
    match task.phase with
    | .loopHead =>
      some (task.goto (if Shutdown.requested flag task.shutdownRx then .left .shutdown else .select))
    | _ => none
  | .shutdown =>
    match task.phase with
    | .select =>
      match Shutdown.wait senders flag task.shutdownRx with
      | some shutdownRx => some { phase := .left .shutdown, shutdownRx }
      | none => none
    | _ => none
  | .enter =>
    match task.phase with
    | .select => some (task.goto .branch)
    | _ => none
  | .leave stop =>
    match task.phase with
    | .branch => some (task.goto (if stop then .left .other else .loopHead))
    | _ => none
  | .closed =>
    match task.phase with
    | .left _ => some (task.goto .ended)
    | _ => none
  | .panic =>
    match task.phase with
    | .opening | .branch | .left _ => some (task.goto .ended)
    | _ => none

end LoopTask

/-! ## A TCP server -/

/-- How far `run_tcp_server` is. -/
inductive AcceptPhase where
  /-- It asks for the address of the listener. -/
  | spawned
  | loopHead
  | select
  /-- A socket is accepted, and not yet a connection. -/
  | accepted
  /-- The connection has its receiver, and no task yet. -/
  | subscribed (shutdownRx : Watch.Receiver)
  /-- `changed` has returned. -/
  | changed (result : Except Unit Unit)
  | left (exit : LoopExit)
  /-- It has found the flag unset. -/
  | sending
  | draining
  /-- It awaits `tcp_server_stopped`. -/
  | stopping
  | ended

/-- The task of `run_tcp_server`. -/
structure AcceptLoop where
  phase : AcceptPhase
  shutdownRx : Watch.Receiver

namespace AcceptLoop

def goto (phase : AcceptPhase) (server : AcceptLoop) : AcceptLoop := { server with phase }

/-- The task has its sender and its receiver until it ends. -/
def handles (server : AcceptLoop) : Nat :=
  match server.phase with
  | .ended => 0
  | _ => 1

/-- The receiver of a connection that is not spawned yet. -/
def subscribed (server : AcceptLoop) : Nat :=
  match server.phase with
  | .subscribed _ => 1
  | _ => 0

end AcceptLoop

/-- A TCP server as far as its shutdown goes. -/
structure TcpShutdown where
  flag : Watch Bool
  handle : ServerHandle
  server : AcceptLoop
  connections : List LoopTask

inductive AcceptAction where
  | localAddr (result : Except Unit Unit)
  | head
  | accept (result : Except Unit Unit)
  /-- The accepted socket is set up, and `shutdown_tx.subscribe()` called if that went well. -/
  | subscribe (result : Except Unit Unit)
  | spawn
  | changed
  /-- The flag is looked at after `changed` or after the loop. -/
  | borrow
  | send
  /-- `join_next` returns the task at this place. -/
  | joinNext (i : Nat)
  | drained
  | stopped

inductive TcpShutdownAction where
  | handle (action : HandleAction)
  | server (action : AcceptAction)
  | connection (i : Nat) (action : LoopAction)

namespace TcpShutdown

/-- The server as `TcpServer::start` leaves it. -/
def started : TcpShutdown where
  flag := { value := false }
  handle := .held 0
  server := { phase := .spawned, shutdownRx := ⟨0⟩ }
  connections := []

def senders (s : TcpShutdown) : Nat := s.handle.senders + s.server.handles

/-- A connection drops its receiver when it leaves its loop. -/
def receivers (s : TcpShutdown) : Nat :=
  s.server.handles + s.server.subscribed + s.connections.countP fun task =>
    match task.phase with
    | .opening | .loopHead | .select | .branch => true
    | .left _ | .ended => false

def goto (phase : AcceptPhase) (s : TcpShutdown) : TcpShutdown :=
  { s with server := s.server.goto phase }

/-- A task that has ended leaves the `JoinSet`. -/
def joinNext (i : Nat) (s : TcpShutdown) : Option TcpShutdown :=
  match s.connections[i]? with
  | some { phase := .ended, .. } => some { s with connections := s.connections.eraseIdx i }
  | _ => none

/-- `run_tcp_server` -/
def stepServer (s : TcpShutdown) : AcceptAction → Option TcpShutdown
  | .localAddr result =>
    match s.server.phase with
    | .spawned => some (s.goto (match result with
      | .ok () => .loopHead
      | .error () => .ended))
    | _ => none
  | .head =>
    match s.server.phase with
    | .loopHead => some (s.goto (if s.flag.value then .left .shutdown else .select))
    | _ => none
  | .accept result =>
    match s.server.phase with
    | .select => some (s.goto (match result with
      | .ok () => .accepted
      | .error () => .left .other))
    | _ => none
  | .subscribe result =>
    match s.server.phase with
    | .accepted => some (s.goto (match result with
      | .ok () => .subscribed s.flag.subscribe
      | .error () => .left .other))
    | _ => none
  | .spawn =>
    match s.server.phase with
    | .subscribed shutdownRx =>
      some { s.goto .loopHead with
        connections := s.connections ++ [{ phase := .opening, shutdownRx := some shutdownRx }] }
    | _ => none
  | .changed =>
    match s.server.phase with
    | .select =>
      match s.flag.changed s.senders s.server.shutdownRx with
      | some (result, shutdownRx) => some { s with server := { phase := .changed result, shutdownRx } }
      | none => none
    | _ => none
  | .borrow =>
    match s.server.phase with
    | .changed (.error ()) => some (s.goto (.left .shutdown))
    | .changed (.ok ()) => some (s.goto (if s.flag.value then .left .shutdown else .loopHead))
    | .left _ => some (s.goto (if s.flag.value then .draining else .sending))
    | _ => none
  | .send =>
    match s.server.phase with
    | .sending => some { s.goto .draining with flag := s.flag.send s.receivers true }
    | _ => none
  | .joinNext i =>
    match s.server.phase with
    | .select => (s.goto .loopHead).joinNext i
    | .draining => s.joinNext i
    | _ => none
  | .drained =>
    match s.server.phase with
    | .draining => if s.connections = [] then some (s.goto .stopping) else none
    | _ => none
  | .stopped =>
    match s.server.phase with
    | .stopping => some (s.goto .ended)
    | _ => none

def step : Machine TcpShutdown TcpShutdownAction := fun s action =>
  match action with
  | .handle action =>
    match s.handle.step s.flag s.receivers action with
    | some (handle, flag) => some { s with handle, flag }
    | none => none
  | .server action => s.stepServer action
  | .connection i action =>
    match s.connections[i]? with
    | some task =>
      match task.step s.senders s.flag action with
      | some task => some { s with connections := s.connections.set i task }
      | none => none
    | none => none

end TcpShutdown

/-! ## A UDP server -/

/-- A UDP server as far as its shutdown goes. -/
structure UdpShutdown where
  flag : Watch Bool
  handle : ServerHandle
  socket : LoopTask

inductive UdpShutdownAction where
  | handle (action : HandleAction)
  | socket (action : LoopAction)

namespace UdpShutdown

/-- The server as `UdpServer::start` leaves it. -/
def started : UdpShutdown where
  flag := { value := false }
  handle := .held 0
  socket := { phase := .opening, shutdownRx := some ⟨0⟩ }

/-- Only the handle has a sender. -/
def senders (s : UdpShutdown) : Nat := s.handle.senders

def receivers (s : UdpShutdown) : Nat :=
  match s.socket.phase with
  | .ended => 0
  | _ => 1

def step : Machine UdpShutdown UdpShutdownAction := fun s action =>
  match action with
  | .handle action =>
    match s.handle.step s.flag s.receivers action with
    | some (handle, flag) => some { s with handle, flag }
    | none => none
  | .socket action =>
    match s.socket.step s.senders s.flag action with
    | some socket => some { s with socket }
    | none => none

end UdpShutdown

end RsNetty

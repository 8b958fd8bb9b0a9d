import RsNetty.Theory.Machine
import RsNetty.Transport.Tcp.Connection

/-!
# The TCP server

The server accepts sockets, runs each connection in a task of its own and joins the tasks that have
ended. The server and the tasks take their steps in any order, and the life hooks they call may
take any time to return.
-/

namespace RsNetty

/-- Identity information for one TCP connection. -/
structure ConnInfo where
  id : UInt64
  peerAddr : SocketAddr
  localAddr : SocketAddr
deriving DecidableEq

/-- The hooks of `Life` that a TCP server calls, with their arguments. -/
inductive LifeCall where
  | tcpServerStarted (localAddr : SocketAddr)
  | tcpServerStopped (localAddr : SocketAddr)
  | tcpConnectionOpened (info : ConnInfo)
  | tcpConnectionClosed (info : ConnInfo) (reason : CloseReason)
deriving DecidableEq

inductive LifeEvent where
  | called (call : LifeCall)
  | returned (call : LifeCall) (result : Except Error Unit)

/-! ## The task of a connection -/

/-- What the task of a connection is given; the commands of its channel arrive as events. -/
structure StreamConnection (P : StreamStages) where
  info : ConnInfo
  stream : TcpStream
  pipeline : StreamPipeline P
  config : TcpConnectionConfig

/-- The state that `run_stream_connection` starts with. -/
def StreamConnection.runtime {P : StreamStages} (connection : StreamConnection P) :
    StreamConnectionRuntime P :=
  .new connection.stream connection.pipeline connection.config connection.config.trackConnectionStats

/-- How far `run_stream_connection_with_life` is. -/
inductive ConnectionPhase (P : StreamStages) where
  | spawned
  /-- It awaits `tcp_connection_opened`. -/
  | opening
  | running (rt : StreamConnectionRuntime P)
  /-- `run_stream_connection` is over, and it awaits `tcp_connection_closed`. -/
  | closing (closed : Except ConnectionFailure CloseReason)
  /-- It awaits something that never happens. -/
  | hung
  | finished (result : Except Error Unit)
  | panicked

/-- The task has ended, so that it can be joined. -/
def ConnectionPhase.isEnded {P : StreamStages} : ConnectionPhase P → Bool
  | .finished _ | .panicked => true
  | _ => false

structure ConnectionTask (P : StreamStages) where
  connection : StreamConnection P
  phase : ConnectionPhase P

inductive ConnectionAction (P : StreamStages) where
  /-- The task is polled for the first time. -/
  | start
  | opened (result : Except Error Unit)
  | event (event : Event P.Write)
  | closed (result : Except Error Unit)
  /-- A life hook panics. -/
  | panic

namespace ConnectionTask

variable {P : StreamStages}

def info (task : ConnectionTask P) : ConnInfo := task.connection.info

def enter (phase : ConnectionPhase P) (events : List LifeEvent) (task : ConnectionTask P) :
    Option (ConnectionTask P × List LifeEvent) :=
  some ({ task with phase }, events)

/-- A turn of the connection's loop, and the end of `run_stream_connection` where it ends. -/
def turn (env : Surroundings) (event : Event P.Write) (rt : StreamConnectionRuntime P)
    (task : ConnectionTask P) : Option (ConnectionTask P × List LifeEvent) :=
  match (StreamConnectionRuntime.select env event).result rt with
  | .ok none rt => task.enter (.running rt) []
  | .ok (some reason) _ =>
    task.enter (.closing (.ok reason)) [.called (.tcpConnectionClosed task.info reason)]
  | .error (.err failure) _ =>
    task.enter (.closing (.error failure)) [.called (.tcpConnectionClosed task.info failure.reason)]
  | .error .panic _ => task.enter .panicked []
  | .error .hang _ => task.enter .hung []

/-- `run_stream_connection_with_life`, action by action, with the life events of each. It sees a
shutdown only once one is `requested`. -/
def step (env : Surroundings) (requested : Bool) (task : ConnectionTask P) :
    ConnectionAction P → Option (ConnectionTask P × List LifeEvent)
  | .start =>
    match task.phase with
    | .spawned => task.enter .opening [.called (.tcpConnectionOpened task.info)]
    | _ => none
  | .opened result =>
    match task.phase with
    | .opening =>
      task.enter (match result with
        | .ok () => .running task.connection.runtime
        | .error err => .finished (.error err)) [.returned (.tcpConnectionOpened task.info) result]
    | _ => none
  | .event event =>
    match task.phase, event with
    | .running rt, .shutdown => if requested then task.turn env .shutdown rt else none
    | .running rt, event => task.turn env event rt
    | _, _ => none
  | .closed result =>
    match task.phase with
    | .closing (.ok reason) =>
      task.enter (.finished result) [.returned (.tcpConnectionClosed task.info reason) result]
    | .closing (.error failure) =>
      -- The failure of the connection is what the task returns, whatever the hook returned.
      task.enter (.finished (.error failure.error))
        [.returned (.tcpConnectionClosed task.info failure.reason) result]
    | _ => none
  | .panic =>
    match task.phase with
    | .opening | .closing _ => task.enter .panicked []
    | _ => none

end ConnectionTask

/-! ## The server -/

/-- An accepted socket with the pipeline that the factory makes for it: what setting `TCP_NODELAY`
on it and asking for its local address return. -/
structure Accepted (P : StreamStages) where
  stream : TcpStream
  peerAddr : SocketAddr
  setNodelay : Bool → Except String Unit
  localAddr : Except String SocketAddr
  pipeline : StreamPipeline P

/-- How far `TcpServer::start` and `run_tcp_server` are. -/
inductive ServerPhase where
  /-- The listener is bound, and `start` asks for its address. -/
  | bound
  /-- `start` awaits `tcp_server_started`. -/
  | starting
  | failed (err : Error)
  /-- The task of `run_tcp_server` is spawned. -/
  | spawned
  | loopHead
  | select
  /-- The loop has been left, and the connections are joined. -/
  | draining (result : Except Error Unit)
  /-- It awaits `tcp_server_stopped`. -/
  | stopping (result : Except Error Unit)
  | stopped (result : Except Error Unit)

/-- The server with its `JoinSet`. `accepted` is the connections spawned so far, `life` the life
events so far and `panics` the number of tasks that panicked; nothing depends on them. -/
structure TcpServer (P : StreamStages) where
  config : TcpConnectionConfig
  phase : ServerPhase := .bound
  /-- What `local_addr` returned last. -/
  localAddr : SocketAddr := ⟨[], 0⟩
  /-- The value of the `watch` channel. -/
  shutdown : Bool := false
  ids : UInt64 := 1
  connections : List (ConnectionTask P) := []
  accepted : List ConnInfo := []
  life : List LifeEvent := []
  panics : Nat := 0

inductive ServerAction (P : StreamStages) where
  /-- What `listener.local_addr()` returns. -/
  | localAddr (result : Except String SocketAddr)
  | started (result : Except Error Unit)
  | head
  | accept (accepted : Except String (Accepted P))
  | changed
  /-- `join_next` returns the task at this place. -/
  | joinNext (i : Nat)
  /-- All tasks are joined. -/
  | drained
  | stopped (result : Except Error Unit)
  /-- Somebody calls `shutdown` on the handle. -/
  | shutdown
  | task (i : Nat) (action : ConnectionAction P)

namespace TcpServer

variable {P : StreamStages}

def record (events : List LifeEvent) (s : TcpServer P) : TcpServer P :=
  { s with life := s.life ++ events }

def goto (phase : ServerPhase) (s : TcpServer P) : TcpServer P := { s with phase }

/-- Leave the accept loop; whatever the reason, every connection is told to shut down. -/
def leave (result : Except Error Unit) (s : TcpServer P) : TcpServer P :=
  { s with phase := .draining result, shutdown := true }

/-- Spawn the task of an accepted socket. -/
def spawn (accepted : Accepted P) (localAddr : SocketAddr) (s : TcpServer P) : TcpServer P :=
  let info : ConnInfo := { id := s.ids, peerAddr := accepted.peerAddr, localAddr }
  let connection : StreamConnection P :=
    { info, stream := accepted.stream, pipeline := accepted.pipeline, config := s.config }
  { s with
    phase := .loopHead
    ids := s.ids + 1
    connections := s.connections ++ [{ connection, phase := .spawned }]
    accepted := s.accepted ++ [info] }

/-- The arm of the `select!` that a finished `accept` runs. Each `?` in it ends the loop. -/
def handleAccepted (accepted : Except String (Accepted P)) (s : TcpServer P) : TcpServer P :=
  match accepted with
  | .error err => s.leave (.error (.io err))
  | .ok accepted =>
    match accepted.setNodelay s.config.tcpNodelay with
    | .error err => s.leave (.error (.io err))
    | .ok () =>
      match accepted.localAddr with
      | .error err => s.leave (.error (.io err))
      | .ok localAddr => s.spawn accepted localAddr

/-- A task that has ended leaves the `JoinSet`; how it ended is only logged. -/
def handleConnectionResult (i : Nat) (s : TcpServer P) : Option (TcpServer P) :=
  match s.connections[i]? with
  | some task =>
    if task.phase.isEnded then some { s with connections := s.connections.eraseIdx i } else none
  | none => none

/-- A step of the task at a place of the `JoinSet`. -/
def stepTask (env : Surroundings) (i : Nat) (action : ConnectionAction P) (s : TcpServer P) :
    Option (TcpServer P) :=
  match s.connections[i]? with
  | some task =>
    match task.step env s.shutdown action with
    | some (task, events) =>
      some { s with
        connections := s.connections.set i task
        life := s.life ++ events
        panics := s.panics + match task.phase with | .panicked => 1 | _ => 0 }
    | none => none
  | none => none

/-- The server as it is once its listener is bound. -/
def new (config : TcpConnectionConfig) : TcpServer P := { config }

def step (env : Surroundings) : Machine (TcpServer P) (ServerAction P) := fun s action =>
  match action, s.phase with
  | .localAddr (.ok localAddr), .bound =>
    some ({ s with localAddr, phase := .starting }.record [.called (.tcpServerStarted localAddr)])
  | .localAddr (.error err), .bound => some (s.goto (.failed (.io err)))
  | .started result, .starting =>
    some ((s.goto (match result with
      | .ok () => .spawned
      | .error err => .failed err)).record [.returned (.tcpServerStarted s.localAddr) result])
  | .localAddr (.ok localAddr), .spawned => some { s with localAddr, phase := .loopHead }
  | .localAddr (.error err), .spawned => some (s.goto (.stopped (.error (.io err))))
  | .head, .loopHead => some (if s.shutdown then s.leave (.ok ()) else s.goto .select)
  | .accept accepted, .select => some (s.handleAccepted accepted)
  -- `changed` returns once a value has been sent, and only `true` is ever sent.
  | .changed, .select => if s.shutdown then some (s.leave (.ok ())) else none
  | .joinNext i, .select => (s.goto .loopHead).handleConnectionResult i
  | .joinNext i, .draining _ => s.handleConnectionResult i
  | .drained, .draining result =>
    if s.connections.isEmpty then
      some ((s.goto (.stopping result)).record [.called (.tcpServerStopped s.localAddr)])
    else none
  | .stopped result, .stopping serverResult =>
    some ((s.goto (.stopped serverResult)).record [.returned (.tcpServerStopped s.localAddr) result])
  -- There is a handle as soon as `tcp_server_started` has returned `Ok`.
  | .shutdown, .bound | .shutdown, .starting | .shutdown, .failed _ => none
  | .shutdown, _ => some { s with shutdown := true }
  | .task i action, _ => s.stepTask env i action
  | _, _ => none

end TcpServer

end RsNetty

import RsNetty.Theory.BoundedQueue
import RsNetty.Theory.Machine
import Mathlib.Logic.Function.Basic

/-!
# Connections whose handlers write to each other

The tasks of a set of TCP connections `K` with their command queues. A handler has the channels of
all the connections; what it writes, and all that neither fills nor empties a queue, is left out. A
task receives commands in its `select!` only, and not while it runs a handler.
-/

namespace RsNetty

inductive CommandKind where
  | write
  | writeAndFlush
  | close
deriving DecidableEq

/-- A `StreamCommand` with the connection whose handler sends it, if it is sent by one. -/
structure QueuedCommand (K : Type) where
  sender : Option K
  kind : CommandKind
deriving DecidableEq

/-- How far the task of a connection is. -/
inductive LoopStage (K : Type) where
  /-- It awaits `tcp_connection_opened`. -/
  | opening
  | select
  /-- It is in `handle_read`, between the messages. -/
  | read
  /-- The handler runs, or awaits something else than a channel. -/
  | handler
  /-- The handler awaits a place in the queue of a connection. -/
  | sending (j : K)
  /-- The handler awaits the acknowledgement of a connection. -/
  | awaiting (j : K)
  /-- It is in `handle_command`. -/
  | command (command : QueuedCommand K)
  /-- The loop is left, and the queue closed. -/
  | ended

structure ConnectionLoop (K : Type) where
  stage : LoopStage K
  rx : BoundedQueue (QueuedCommand K)

namespace ConnectionLoop
variable {K : Type}

def isEnded (connection : ConnectionLoop K) : Bool :=
  match connection.stage with
  | .ended => true
  | _ => false

/-- The commands that the task has not carried out. -/
def unanswered (connection : ConnectionLoop K) : List (QueuedCommand K) :=
  match connection.stage with
  | .command command => command :: connection.rx.items
  | _ => connection.rx.items

end ConnectionLoop

abbrev Connections (K : Type) := K → ConnectionLoop K

/-- What the task of a connection does. -/
inductive TaskAction (K : Type) where
  | opened (result : Except Unit Unit)
  /-- The read branch is ready. -/
  | read
  /-- The handler is called with a message. -/
  | call
  /-- The handler calls `Channel::write`, or `Channel::write_and_flush`, on the channel of a
  connection. -/
  | write (j : K) (flush : Bool)
  /-- What the handler awaits is ready. -/
  | resume
  | returned
  /-- `handle_read` is over, and the loop with it or not. -/
  | leave (stop : Bool)
  | receive
  /-- The command is carried out. -/
  | done (result : Except Unit Unit)
  /-- The branch for the shutdown or for the timeout is ready. -/
  | stop
  | panic

inductive ConnectionsAction (K : Type) where
  | task (k : K) (action : TaskAction K)
  /-- Somebody outside the handlers sends a command to a connection. -/
  | offer (j : K) (kind : CommandKind)
  /-- Somebody outside the handlers uses the place that he was given. -/
  | commit (j : K)

namespace Connections
variable {K : Type} [DecidableEq K]

/-- The connections, with what their configuration has as `outbound_queue_size`. -/
def spawned (outboundQueueSize : K → Nat) : Connections K := fun k =>
  { stage := .opening, rx := { capacity := max (outboundQueueSize k) 1 } }

def goto (k : K) (stage : LoopStage K) (s : Connections K) : Connections K :=
  Function.update s k { s k with stage }

def setRx (j : K) (rx : BoundedQueue (QueuedCommand K)) (s : Connections K) : Connections K :=
  Function.update s j { s j with rx }

/-- The task leaves its loop, and drops its receiver with the commands in the queue. -/
def stop (k : K) (s : Connections K) : Connections K := (s.setRx k (s k).rx.close).goto k .ended

/-- What a handler awaits once it has put its command into the queue. -/
def sent (k j : K) (kind : CommandKind) (s : Connections K) : Connections K :=
  match kind with
  | .writeAndFlush => s.goto k (.awaiting j)
  | .write | .close => s.goto k .handler

/-- `Channel::write` and `Channel::write_and_flush`, up to where they wait. -/
def write (k j : K) (flush : Bool) (s : Connections K) : Connections K :=
  let kind := if flush then CommandKind.writeAndFlush else .write
  if (s j).isEnded then s
  else if (s j).rx.Full then (s.setRx j ((s j).rx.offer ⟨some k, kind⟩)).goto k (.sending j)
  else (s.setRx j ((s j).rx.offer ⟨some k, kind⟩)).sent k j kind

/-- The handler goes on, if what it awaits is ready: a place, an acknowledgement, or that the queue
was closed or the acknowledgement dropped. -/
def resume (k : K) (s : Connections K) : Option (Connections K) :=
  match (s k).stage with
  | .sending j =>
    if (s j).isEnded then some (s.goto k .handler)
    else
      match (s j).rx.commit (·.sender = some k) with
      | some (command, rx) => some ((s.setRx j rx).sent k j command.kind)
      | none => none
  | .awaiting j =>
    if ⟨some k, .writeAndFlush⟩ ∈ (s j).unanswered then none else some (s.goto k .handler)
  | _ => none

def stepTask (k : K) (s : Connections K) : TaskAction K → Option (Connections K)
  | .opened result =>
    match (s k).stage, result with
    | .opening, .ok () => some (s.goto k .select)
    | .opening, .error () => some (s.stop k)
    | _, _ => none
  | .read =>
    match (s k).stage with
    | .select => some (s.goto k .read)
    | _ => none
  | .call =>
    match (s k).stage with
    | .read => some (s.goto k .handler)
    | _ => none
  | .write j flush =>
    match (s k).stage with
    | .handler => some (s.write k j flush)
    | _ => none
  | .resume => s.resume k
  | .returned =>
    match (s k).stage with
    | .handler => some (s.goto k .read)
    | _ => none
  | .leave stop =>
    match (s k).stage with
    | .read => some (if stop then s.stop k else s.goto k .select)
    | _ => none
  | .receive =>
    match (s k).stage with
    | .select =>
      match (s k).rx.receive with
      | some (command, rx) => some ((s.setRx k rx).goto k (.command command))
      | none => none
    | _ => none
  | .done result =>
    match (s k).stage, result with
    | .command { kind := .close, .. }, _ | .command _, .error () => some (s.stop k)
    | .command _, .ok () => some (s.goto k .select)
    | _, _ => none
  | .stop =>
    match (s k).stage with
    | .select => some (s.stop k)
    | _ => none
  | .panic =>
    match (s k).stage with
    | .opening | .read | .handler | .command _ => some (s.stop k)
    | _ => none

def step : Machine (Connections K) (ConnectionsAction K) := fun s action =>
  match action with
  | .task k action => s.stepTask k action
  | .offer j kind =>
    if (s j).isEnded then none else some (s.setRx j ((s j).rx.offer ⟨none, kind⟩))
  | .commit j =>
    match (s j).rx.commit (·.sender = none) with
    | some (_, rx) => some (s.setRx j rx)
    | none => none

end Connections

end RsNetty

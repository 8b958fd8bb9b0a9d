import RsNetty.Theory.Machine
import RsNetty.Transport.Tcp.Connection

/-!
# The channel of a TCP connection

The clones of a `Channel` put commands into a bounded queue, first in first out, from which the
connection task takes them. When the task ends the queue is dropped, and with it the one-shot
senders in it.
-/

namespace RsNetty

/-- How a connection task stands. A task that hangs keeps all it has. -/
inductive TaskStatus where
  | running
  | ended (closed : Except ConnectionFailure CloseReason)
  | panicked
  | hung

/-- The task has dropped the receiver of its queue. -/
def TaskStatus.isOver : TaskStatus → Bool
  | .ended _ | .panicked => true
  | .running | .hung => false

def TaskStatus.isRunning : TaskStatus → Bool
  | .running => true
  | _ => false

/-- The sender that a command carries. -/
def StreamCommand.done? {W : Type} : StreamCommand W → Option Sender
  | .writeAndFlush _ done => some done
  | .write _ | .close => none

/-- A connection task with its command queue. `next` is the number of one-shot channels that
`write_and_flush` has made, and `queued` all commands that were ever put into the queue; nothing
depends on the latter. -/
structure StreamChannel (P : StreamStages) where
  rt : StreamConnectionRuntime P
  status : TaskStatus := .running
  queue : List (StreamCommand P.Write) := []
  next : Sender := 0
  queued : List (StreamCommand P.Write) := []

inductive ChannelAction (P : StreamStages) where
  | write (msg : P.Write)
  | writeAndFlush (msg : P.Write)
  | close
  /-- The task takes a command off the queue, or learns that nobody can send one any more. -/
  | recv
  | read (read : Except String Bytes)
  | shutdown
  | idle

namespace StreamChannel

variable {P : StreamStages}

/-- A connection task as it starts, with an empty queue. -/
def new (stream : TcpStream) (pipeline : StreamPipeline P) (config : TcpConnectionConfig)
    (tracked : Bool) : StreamChannel P where
  rt := .new stream pipeline config tracked

/-- `tx.send(command)` gets through; it waits as long as the queue is full. A closed queue takes
nothing. -/
def send (command : StreamCommand P.Write) (s : StreamChannel P) : Option (StreamChannel P) :=
  if s.status.isOver then some s
  else if s.queue.length < s.rt.config.outboundQueueSize then
    some { s with queue := s.queue ++ [command], queued := s.queued ++ [command] }
  else none

/-- What the task finds ready when it takes this action, and the queue it leaves. -/
def event? (s : StreamChannel P) :
    ChannelAction P → Option (Event P.Write × List (StreamCommand P.Write))
  | .recv =>
    match s.queue with
    | [] => some (.command none, [])
    | command :: queue => some (.command (some command), queue)
  | .read read => some (.read read, s.queue)
  | .shutdown => some (.shutdown, s.queue)
  | .idle => some (.idle, s.queue)
  | .write _ | .writeAndFlush _ | .close => none

/-- A turn of the task's loop; at its end the queue is dropped. -/
def turn (env : Surroundings) (event : Event P.Write) (queue : List (StreamCommand P.Write))
    (s : StreamChannel P) : StreamChannel P :=
  match (StreamConnectionRuntime.select env event).result s.rt with
  | .ok none rt => { s with rt, queue }
  | .ok (some reason) rt => { s with rt, queue := [], status := .ended (.ok reason) }
  | .error (.err failure) rt => { s with rt, queue := [], status := .ended (.error failure) }
  | .error .panic rt => { s with rt, queue := [], status := .panicked }
  | .error .hang rt => { s with rt, queue, status := .hung }

/-- An action of the task. -/
def act (env : Surroundings) (action : ChannelAction P) (s : StreamChannel P) :
    Option (StreamChannel P) :=
  match s.event? action with
  | some (event, queue) => if s.status.isRunning then some (s.turn env event queue) else none
  | none => none

def step (env : Surroundings) : Machine (StreamChannel P) (ChannelAction P) := fun s action =>
  match action with
  | .write msg => s.send (.write msg)
  | .writeAndFlush msg => { s with next := s.next + 1 }.send (.writeAndFlush msg s.next)
  | .close => s.send .close
  | action => s.act env action

/-- The task holds the sender, in its queue or for good. -/
def Holds (s : StreamChannel P) (done : Sender) : Prop :=
  match s.status with
  | .running => some done ∈ s.queue.map (·.done?)
  | .hung => True
  | .ended _ | .panicked => False

instance (s : StreamChannel P) (done : Sender) : Decidable (s.Holds done) := by
  unfold Holds
  split <;> infer_instance

/-- What a `write_and_flush` that made the one-shot channel `done` has returned, if it has. A sender
that is dropped without a word, like a closed queue, makes it return `Error::ChannelClosed`. -/
def answer (s : StreamChannel P) (done : Sender) : Option (Except Error Unit) :=
  match s.rt.acks.lookup done with
  | some ack => some ack
  | none => if s.Holds done then none else some (.error .channelClosed)

end StreamChannel

end RsNetty

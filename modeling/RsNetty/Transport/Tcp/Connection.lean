import RsNetty.Pipeline.Stream

/-!
# The task of a TCP connection

The task waits for a read, a command, a shutdown request or the idle timer, and handles one of them
at a time until the connection closes.
-/

namespace RsNetty
open EStateM Traced

/-- Reason a TCP connection stopped. -/
inductive CloseReason where
  | peerClosed
  | localClosed
  | channelClosed
  | handlerClosed
  | serverShutdown
  | idleTimeout
  | ioError
  | decodeError
  | encodeError
  | frameTooLarge
  | handlerError
deriving DecidableEq

/-- The fields of `TcpConnectionConfig` that the task and the server read, and the capacity of the
command queue. -/
structure TcpConnectionConfig where
  maxFrameSize : Nat := 1024 * 1024
  outboundQueueSize : Nat := 1024
  tcpNodelay : Bool := true
  idleTimeout : Option Nat := none
  trackConnectionStats : Bool := false

structure ConnectionFailure where
  reason : CloseReason
  error : Error

/-- `failure` -/
def failure (reason : CloseReason) (error : Error) : ConnectionFailure := { reason, error }

def decodeFailure (error : Error) : ConnectionFailure :=
  let reason := match error with
    | .decode _ => .decodeError
    | .frameTooLarge _ _ => .frameTooLarge
    | .io _ => .ioError
    | _ => .handlerError
  failure reason error

def outboundFailure (error : Error) : ConnectionFailure :=
  let reason := match error with
    | .encode _ => .encodeError
    | .io _ => .ioError
    | .frameTooLarge _ _ => .frameTooLarge
    | _ => .handlerError
  failure reason error

def handlerFailure (error : Error) : ConnectionFailure :=
  let reason := match error with
    | .decode _ => .decodeError
    | .encode _ => .encodeError
    | .io _ => .ioError
    | .frameTooLarge _ _ => .frameTooLarge
    | _ => .handlerError
  failure reason error

/-- The counters of `ConnectionStats` that reading adds to. -/
structure ReadStats where
  bytesRead : UInt64 := 0
  framesRead : UInt64 := 0

def ReadStats.addBytesRead (value : Nat) (stats : ReadStats) : ReadStats :=
  { stats with bytesRead := stats.bytesRead + UInt64.ofNat value }

def ReadStats.addFrameRead (stats : ReadStats) : ReadStats :=
  { stats with framesRead := stats.framesRead + 1 }

/-- A command of a channel. -/
inductive StreamCommand (W : Type) where
  | write (msg : W)
  | writeAndFlush (msg : W) (done : Sender)
  | close

/-- What the code leaves open: the `{:?}` text of an error, and how many items in a row a decoder
may return without taking anything off the buffer before its loop is said to hang. -/
structure Surroundings where
  debug : Error → String
  spin : Nat

/-- The state of the task. `acks` is what it sent to the senders of `WriteAndFlush` commands, `asked`
tells for each of these how many messages had been accepted for output with that of the command, and
`consumed` is the number of bytes that the decoder took off `read_buf`; nothing depends on them. -/
structure StreamConnectionRuntime (P : StreamStages) where
  io : StreamState P
  config : TcpConnectionConfig
  readBuf : BytesMut := []
  stats : Option ReadStats
  acks : Acks := []
  asked : List (Sender × Nat) := []
  consumed : Int := 0

/-- The task as `run_stream_connection` starts it, with or without counters. -/
def StreamConnectionRuntime.new {P : StreamStages} (stream : TcpStream)
    (pipeline : StreamPipeline P) (config : TcpConnectionConfig) (tracked : Bool) :
    StreamConnectionRuntime P where
  io := { pipeline, ctx := {}, stream, writeBuf := [],
          stats := if tracked then some {} else none, history := {} }
  config
  stats := if tracked then some {} else none

/-- What the task finds ready. -/
inductive Event (W : Type) where
  /-- The socket is read: the bytes it had, none of them at the end of the stream. -/
  | read (read : Except String Bytes)
  | command (cmd : Option (StreamCommand W))
  | shutdown
  | idle

/-- A `ConnectionResult`. -/
abbrev Task (P : StreamStages) := Traced (Exit ConnectionFailure) (StreamConnectionRuntime P)

namespace StreamConnectionRuntime

variable {P : StreamStages}

def ioPart : Component (StreamConnectionRuntime P) (StreamState P) :=
  ⟨io, fun io rt => { rt with io }⟩

/-- The codec with the read buffer. -/
def decodePart : Component (StreamConnectionRuntime P) (P.C × BytesMut) :=
  ⟨fun rt => (rt.io.pipeline.codec, rt.readBuf), fun (codec, readBuf) rt =>
    { rt with
      io := { rt.io with pipeline := { rt.io.pipeline with codec } }
      readBuf
      consumed := rt.consumed + (rt.readBuf.length - readBuf.length) }⟩

/-- Run a part of the pipeline, its error mapped to a close reason. -/
def onIo {α : Type} (failure : Error → ConnectionFailure)
    (x : Traced (Exit Error) (StreamState P) α) : Task P α :=
  Traced.zoom ioPart (mapError (Exit.map failure) x)

def countRead (f : ReadStats → ReadStats) : Task P Unit :=
  step (modify fun rt => { rt with stats := rt.stats.map f })

def countWrite (f : WriteStats → WriteStats) : Task P Unit :=
  step (modify fun rt => { rt with io := rt.io.count f })

def decode : Task P (Option P.Item) :=
  mapError (Exit.map decodeFailure) (await (EStateM.zoom decodePart P.decode))

/-- The decode loop of `handle_read`, for a number of calls. -/
def decodeLoop : Nat → Task P (Option CloseReason)
  | 0 => fail .hang
  | fuel + 1 => do
    match ← decode with
    | none => return none
    | some msg =>
      countRead .addFrameRead
      onIo handlerFailure (StreamState.processInboundFlushable msg)
      if (← look).io.ctx.closeRequested then
        return some .handlerClosed
      decodeLoop fuel

/-- Reading `readLen` bytes that `read_buf` has already put into the buffer. Every item that takes
something off the buffer shortens it, so the loop has calls enough for all of them. -/
def handleRead (env : Surroundings) (read : Except String Nat) : Task P (Option CloseReason) := do
  match read with
  | .error err => fail (.err (failure .ioError (.io err)))
  | .ok readLen =>
    if readLen = 0 then
      return some .peerClosed
    countRead (.addBytesRead readLen)
    let rt ← look
    if rt.readBuf.length > rt.config.maxFrameSize then
      fail (.err (failure .frameTooLarge
        (.frameTooLarge rt.readBuf.length rt.config.maxFrameSize)))
    decodeLoop (rt.readBuf.length + 1 + env.spin)

def flushWriteBuf : Task P Unit :=
  onIo (failure .ioError) (await StreamState.flushWriteBuf)

/-- A message of the command queue reaches the task. -/
def deliver (msg : P.Write) : Task P Unit :=
  step (modify fun rt => { rt with io := rt.io.accept msg })

/-- Encode the message and flush it. The frame is counted also if a stage stops the message. -/
def writeMessage (msg : P.Write) : Task P Unit := do
  deliver msg
  onIo outboundFailure (await (StreamState.processOutbound msg))
  countWrite .addFrameWritten
  flushWriteBuf

/-- The sender of a `WriteAndFlush` command is to hear of its message and of those before it. -/
def ask (done : Sender) : Task P Unit :=
  step (modify fun rt =>
    { rt with asked := rt.asked ++ [(done, rt.io.history.accepted.length + 1)] })

def handleCommand (env : Surroundings) (cmd : Option (StreamCommand P.Write)) :
    Task P (Option CloseReason) := do
  match cmd with
  | some (.write msg) =>
    writeMessage msg
    return none
  | some (.writeAndFlush msg done) =>
    ask done
    let result ← attempt Exit.caught (writeMessage msg)
    let ack := result.mapError fun err =>
      .pipeline ("write_and_flush failed: " ++ env.debug err.error)
    step (modify fun rt => { rt with acks := rt.acks ++ [(done, ack)] })
    propagate result
    return none
  | some .close => return some .localClosed
  | none => return some .channelClosed

/-- One turn of the loop of `run_without_idle_timeout` and `run_with_idle_timeout`. The shutdown
request is seen at the head of the loop or in the `select!`; the timer fires only where there is
one. -/
def select (env : Surroundings) : Event P.Write → Task P (Option CloseReason)
  | .read read => do
    if let .ok bytes := read then
      step (modify fun rt => { rt with readBuf := rt.readBuf ++ bytes })
    handleRead env (read.map List.length)
  | .command cmd => handleCommand env cmd
  | .shutdown => return some .serverShutdown
  | .idle => do
    if (← look).config.idleTimeout.isSome then
      return some .idleTimeout
    return none

/-- The loop, for as long as events arrive: the close reason, or none while the task waits for the
next event. -/
def run (env : Surroundings) : List (Event P.Write) → Task P (Option CloseReason)
  | [] => return none
  | event :: events => do
    match ← select env event with
    | some reason => return some reason
    | none => run env events

variable {env : Surroundings} {rt : StreamConnectionRuntime P}

@[simp] theorem run_nil : (run env []).result rt = .ok none rt := rfl

theorem run_cons (event : Event P.Write) (events : List (Event P.Write)) :
    (run env (event :: events)).result rt =
      match (select env event).result rt with
      | .ok none rt' => (run env events).result rt'
      | .ok (some reason) rt' => .ok (some reason) rt'
      | .error e rt' => .error e rt' := by
  cases h : (select env event).result rt with
  | ok closed rt' =>
    refine (result_bind_of_ok h).trans ?_
    cases closed <;> rfl
  | error e rt' => exact result_bind_of_error h

/-- A run goes on where the run of its first events stands. -/
theorem run_append (before after : List (Event P.Write)) :
    (run env (before ++ after)).result rt =
      match (run env before).result rt with
      | .ok none rt' => (run env after).result rt'
      | .ok (some reason) rt' => .ok (some reason) rt'
      | .error e rt' => .error e rt' := by
  induction before generalizing rt with
  | nil => rfl
  | cons event before ih =>
    rw [List.cons_append, run_cons, run_cons]
    cases (select env event).result rt with
    | ok closed rt' =>
      cases closed with
      | none => exact ih
      | some reason => rfl
    | error e rt' => rfl

/-- A task that waits after its last event waited before it. -/
theorem run_concat_eq_open {before : List (Event P.Write)} {event : Event P.Write} :
    (run env (before ++ [event])).result rt = .ok none t ↔
      ∃ s, (run env before).result rt = .ok none s ∧
        (select env event).result s = .ok none t := by
  rw [run_append]
  cases (run env before).result rt with
  | ok closed s =>
    cases closed with
    | none =>
      dsimp only
      rw [run_cons]
      cases h : (select env event).result s with
      | ok closed s' => cases closed <;> simp [h]
      | error e s' => simp [h]
    | some reason => simp
  | error e s => simp

end StreamConnectionRuntime

end RsNetty

import RsNetty.Context

/-!
# The TCP stream pipeline

Inbound messages run through the stages to the handler; what the handler writes is staged in its
outbox, and drained to the socket through `write_buf` while the handler waits for a flush and once
it has returned.
-/

namespace RsNetty
open EStateM Traced

/-- The type parameters of a `StreamPipeline` with the code of their traits. `C` is the codec, `InP`,
`BizP` and `OutP` are the composed stages, `H` is the handler; the code of each runs on its own
state. -/
structure StreamStages : Type 1 where
  C : Type
  InP : Type
  BizP : Type
  H : Type
  OutP : Type
  Item : Type
  InOut : Type
  CurrentIn : Type
  Write : Type
  CurrentOut : Type
  decode : Exec (C × BytesMut) (Option Item)
  encode : CurrentOut → Exec (C × BytesMut) Unit
  inbound : Item → Exec InP (Flow InOut)
  business : InOut → Exec BizP (Flow CurrentIn)
  read : H → CurrentIn → HandlerFuture H Write
  outbound : Write → Exec OutP (Flow CurrentOut)

structure StreamPipeline (P : StreamStages) where
  codec : P.C
  inbound : P.InP
  business : P.BizP
  handler : P.H
  outbound : P.OutP

abbrev StreamOutboxCommand (W : Type) := OutboxCommand W

/-- The counters of `ConnectionStats` that writing adds to. -/
structure WriteStats where
  bytesWritten : UInt64 := 0
  framesWritten : UInt64 := 0

def WriteStats.addBytesWritten (value : Nat) (stats : WriteStats) : WriteStats :=
  { stats with bytesWritten := stats.bytesWritten + UInt64.ofNat value }

def WriteStats.addFrameWritten (stats : WriteStats) : WriteStats :=
  { stats with framesWritten := stats.framesWritten + 1 }

/-- The writing half of a socket: the bytes handed to it so far, and for each `write_all` to come
the number of bytes it gets out before it fails and its error, if it fails. -/
structure TcpStream where
  sent : Bytes := []
  faults : List (Option (Nat × String)) := []

def TcpStream.writeAll (src : Bytes) : Exec TcpStream Unit := fun stream =>
  match stream.faults with
  | [] => .ok () { stream with sent := stream.sent ++ src }
  | none :: faults => .ok () { sent := stream.sent ++ src, faults }
  | some (n, err) :: faults =>
    .error (.err (.io err)) { sent := stream.sent ++ src.take n, faults }

/-! ## The outbound side -/

/-- The outbound stages and the encoder, which `process_outbound` and `encode_outbound` share: no
frame is encoded for a message that a stage stops. -/
def StreamStages.outboundFrame (P : StreamStages) (msg : P.Write) :
    Exec (P.OutP × P.C × BytesMut) Bool := do
  match ← EStateM.zoom Component.fst (P.outbound msg) with
  | .next msg =>
    EStateM.zoom Component.snd (P.encode msg)
    return true
  | .stop => return false

/-- A message that reached the outbound stages, with the states that they, the codec and the buffer
were in. -/
structure Processed (P : StreamStages) where
  outbound : P.OutP
  codec : P.C
  dst : BytesMut
  msg : P.Write

variable {P : StreamStages}

def Processed.run (p : Processed P) : EStateM.Result Fault (P.OutP × P.C × BytesMut) Bool :=
  P.outboundFrame p.msg (p.outbound, p.codec, p.dst)

/-- The encoding of the message: what was put behind the bytes in the buffer. -/
def Processed.frame (p : Processed P) : Bytes := p.run.final.2.2.drop p.dst.length

/-- No stage and no encoder refused the message. -/
def Processed.Accepted (p : Processed P) : Prop := ∃ encoded s, p.run = .ok encoded s

/-- What happened so far. Nothing the program does depends on it. -/
structure History (P : StreamStages) where
  /-- the messages handed to `process_inbound_flushable` -/
  handed : List P.Item := []
  /-- the messages staged by the handler or delivered by the command queue -/
  accepted : List P.Write := []
  /-- the messages that reached the outbound stages -/
  processed : List (Processed P) := []

/-- What `process_inbound_flushable` borrows of a connection. -/
structure StreamState (P : StreamStages) where
  pipeline : StreamPipeline P
  ctx : Context P.Write
  stream : TcpStream
  writeBuf : BytesMut
  stats : Option WriteStats
  history : History P

namespace StreamState

def ctxPart : Component (StreamState P) (Context P.Write) :=
  ⟨ctx, fun ctx s => { s with ctx }⟩

def inboundPart : Component (StreamState P) P.InP :=
  ⟨fun s => s.pipeline.inbound, fun inbound s => { s with pipeline := { s.pipeline with inbound } }⟩

def businessPart : Component (StreamState P) P.BizP :=
  ⟨fun s => s.pipeline.business,
    fun business s => { s with pipeline := { s.pipeline with business } }⟩

def outboundPart : Component (StreamState P) (P.OutP × P.C × BytesMut) :=
  ⟨fun s => (s.pipeline.outbound, s.pipeline.codec, s.writeBuf),
    fun (outbound, codec, writeBuf) s =>
      { s with pipeline := { s.pipeline with outbound, codec }, writeBuf }⟩

def streamPart : Component (StreamState P) TcpStream :=
  ⟨stream, fun stream s => { s with stream }⟩

def setHandler (handler : P.H) (s : StreamState P) : StreamState P :=
  { s with pipeline := { s.pipeline with handler } }

/-- `if let Some(stats) = stats { .. }` -/
def count (f : WriteStats → WriteStats) (s : StreamState P) : StreamState P :=
  { s with stats := s.stats.map f }

def hand (msg : P.Item) (s : StreamState P) : StreamState P :=
  { s with history := { s.history with handed := s.history.handed ++ [msg] } }

def accept (msg : P.Write) (s : StreamState P) : StreamState P :=
  { s with history := { s.history with accepted := s.history.accepted ++ [msg] } }

/-- `StreamOutboxHandle::push_write` -/
def pushWrite (msg : P.Write) (s : StreamState P) : StreamState P :=
  { s.accept msg with ctx := s.ctx.pushWrite msg }

/-- `StreamOutboxHandle::push_flush` -/
def pushFlush : Exec (StreamState P) Sender := do
  let s ← get
  EStateM.zoom ctxPart (Context.pushFlush s.history.accepted.length)

def processing (msg : P.Write) (s : StreamState P) : StreamState P :=
  { s with history := { s.history with
      processed := s.history.processed ++
        [⟨s.pipeline.outbound, s.pipeline.codec, s.writeBuf, msg⟩] } }

def outboundFrame (msg : P.Write) : Exec (StreamState P) Bool := do
  modify (processing msg)
  EStateM.zoom outboundPart (P.outboundFrame msg)

def processOutbound (msg : P.Write) : Exec (StreamState P) Unit := do
  let _ ← outboundFrame msg

def encodeOutbound (msg : P.Write) : Exec (StreamState P) Unit := do
  if ← outboundFrame msg then
    modify (count .addFrameWritten)

/-- One step: `write_buf` still holds what `write_all` is handing to the socket, and is cleared
before the task does anything else. -/
def flushWriteBuf : Exec (StreamState P) Unit := do
  let s ← get
  if s.writeBuf ≠ [] then
    EStateM.zoom streamPart (TcpStream.writeAll s.writeBuf)
    modify (count (.addBytesWritten s.writeBuf.length))
    modify ({ · with writeBuf := [] })

/-- The loop of `drain_stream_outbox` over the commands taken. -/
def drainCommands : List (StreamOutboxCommand P.Write) → Traced (Exit Error) (StreamState P) Unit
  | [] => pure ()
  | .write msg :: commands => do
    await (encodeOutbound msg)
    drainCommands commands
  | .flush done :: commands => do
    let result ← attempt Exit.caught (await flushWriteBuf)
    let ack := result.mapError fun err => .pipeline ("flush failed: " ++ err.display)
    step (modify fun s => { s with ctx := s.ctx.send done ack })
    propagate result
    drainCommands commands

def drainStreamOutbox (flushAtEnd : Bool) : Traced (Exit Error) (StreamState P) Unit := do
  let commands ← await (EStateM.zoom ctxPart Context.takeCommands)
  drainCommands commands
  if flushAtEnd then
    await flushWriteBuf

/-! ## The inbound side -/

/-- What a handler of the connection can do. -/
def handlerRuntime : HandlerRuntime (StreamState P) P.Write where
  ctx := ctxPart
  pushWrite := pushWrite
  pushFlush := pushFlush
  drainOutbox := drainStreamOutbox false

/-- What `process_inbound` does for a handler: nobody drains its outbox. -/
def unflushedRuntime : HandlerRuntime (StreamState P) P.Write :=
  { handlerRuntime with drainOutbox := pure () }

/-- `handler.read(ctx, msg).await`, without a drain -/
def readHandler (msg : P.CurrentIn) : Traced (Exit Error) (StreamState P) Unit := do
  let future := P.read (← look).pipeline.handler msg
  let (result, handler) ← unflushedRuntime.pollHandler future
  step (modify (setHandler handler))
  propagate result

/-- Without eager flush support. -/
def processInbound (msg : P.Item) : Traced (Exit Error) (StreamState P) Unit := do
  match ← await (EStateM.zoom inboundPart (P.inbound msg)) with
  | .stop => return ()
  | .next msg =>
    match ← await (EStateM.zoom businessPart (P.business msg)) with
    | .stop => return ()
    | .next msg => readHandler msg

/-- The handler on one message, and what it leaves in its outbox. -/
def runHandler (msg : P.CurrentIn) : Traced (Exit Error) (StreamState P) Unit := do
  let future := P.read (← look).pipeline.handler msg
  let (result, handler) ← handlerRuntime.pollHandler future
  step (modify (setHandler handler))
  drainStreamOutbox true
  propagate result

def processInboundFlushable (msg : P.Item) : Traced (Exit Error) (StreamState P) Unit := do
  step (modify (hand msg))
  match ← await (EStateM.zoom inboundPart (P.inbound msg)) with
  | .stop => return ()
  | .next msg =>
    match ← await (EStateM.zoom businessPart (P.business msg)) with
    | .stop => return ()
    | .next msg => runHandler msg

end StreamState

end RsNetty

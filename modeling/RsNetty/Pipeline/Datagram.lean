import RsNetty.Context

/-!
# The UDP datagram pipeline

One pipeline serves all the peers of a socket. Its stages and its handler are told the peer of the
datagram at hand; what the handler writes goes out as one datagram for each message.
-/

namespace RsNetty
open EStateM Traced

/-- Identity information for one UDP datagram. -/
structure DatagramInfo where
  id : UInt64
  peerAddr : SocketAddr
  localAddr : SocketAddr
deriving DecidableEq

/-- The type parameters of a `DatagramPipeline` with the code of their traits, as in
`StreamStages`. A stage or a handler reads the `DatagramInfo` of its context. -/
structure DatagramStages : Type 1 where
  C : Type
  InP : Type
  BizP : Type
  H : Type
  OutP : Type
  Item : Type
  InOut : Type
  CurrentIn : Type
  Write : Type
  CurrentOut : Type
  decodeDatagram : Bytes → Exec C Item
  encodeDatagram : CurrentOut → Exec (C × BytesMut) Unit
  inbound : DatagramInfo → Item → Exec InP (Flow InOut)
  business : DatagramInfo → InOut → Exec BizP (Flow CurrentIn)
  read : DatagramInfo → H → CurrentIn → HandlerFuture H (SocketAddr × Write)
  outbound : DatagramInfo → Write → Exec OutP (Flow CurrentOut)

structure DatagramPipeline (P : DatagramStages) where
  codec : P.C
  inbound : P.InP
  business : P.BizP
  handler : P.H
  outbound : P.OutP

/-- A message with the peer it goes to, or a flush. -/
abbrev DatagramOutboxCommand (W : Type) := OutboxCommand (SocketAddr × W)

abbrev DatagramContext (W : Type) := Context (SocketAddr × W)

/-- `DatagramContext::write`, to the peer of the current datagram -/
def HandlerFuture.reply {H W : Type} (info : DatagramInfo) (msg : W)
    (rest : HandlerFuture H (SocketAddr × W)) : HandlerFuture H (SocketAddr × W) :=
  .write (info.peerAddr, msg) rest

/-- The sending half of a socket: the datagrams sent so far, and for each `send_to` to come the
error it fails with, if it fails. -/
structure UdpSocket where
  sent : List (SocketAddr × Bytes) := []
  faults : List (Option String) := []

def UdpSocket.sendTo (buf : Bytes) (peer : SocketAddr) : Exec UdpSocket Unit := fun socket =>
  match socket.faults with
  | [] => .ok () { socket with sent := socket.sent ++ [(peer, buf)] }
  | none :: faults => .ok () { sent := socket.sent ++ [(peer, buf)], faults }
  | some err :: faults => .error (.err (.io err)) { socket with faults }

/-- The outbound stages and the encoder, which `process_outbound` and `encode_datagram_outbound`
share. -/
def DatagramStages.outboundDatagram (P : DatagramStages) (info : DatagramInfo) (msg : P.Write) :
    Exec (P.OutP × P.C × BytesMut) Unit := do
  match ← EStateM.zoom Component.fst (P.outbound info msg) with
  | .next msg => EStateM.zoom Component.snd (P.encodeDatagram msg)
  | .stop => return ()

/-- A message that reached the outbound stages on its way to a peer, with what their context told
them and the states that they and the codec were in. -/
structure ProcessedDatagram (P : DatagramStages) where
  info : DatagramInfo
  peer : SocketAddr
  outbound : P.OutP
  codec : P.C
  msg : P.Write

/-- What `process_inbound_flushable` borrows of a socket task. `delivered` is what it was handed so
far, with the peers, `accepted` is what was staged by the handler or delivered by the command queue,
and `processed` is what reached the outbound stages; nothing depends on them. -/
structure DatagramState (P : DatagramStages) where
  pipeline : DatagramPipeline P
  ctx : DatagramContext P.Write
  socket : UdpSocket
  writeBuf : BytesMut
  delivered : List (SocketAddr × P.Item)
  accepted : List (SocketAddr × P.Write) := []
  processed : List (ProcessedDatagram P) := []

namespace DatagramState
variable {P : DatagramStages}

def ctxPart : Component (DatagramState P) (DatagramContext P.Write) :=
  ⟨ctx, fun ctx s => { s with ctx }⟩

def codecPart : Component (DatagramState P) P.C :=
  ⟨fun s => s.pipeline.codec, fun codec s => { s with pipeline := { s.pipeline with codec } }⟩

def inboundPart : Component (DatagramState P) P.InP :=
  ⟨fun s => s.pipeline.inbound, fun inbound s => { s with pipeline := { s.pipeline with inbound } }⟩

def businessPart : Component (DatagramState P) P.BizP :=
  ⟨fun s => s.pipeline.business,
    fun business s => { s with pipeline := { s.pipeline with business } }⟩

def outboundPart : Component (DatagramState P) (P.OutP × P.C × BytesMut) :=
  ⟨fun s => (s.pipeline.outbound, s.pipeline.codec, s.writeBuf),
    fun (outbound, codec, writeBuf) s =>
      { s with pipeline := { s.pipeline with outbound, codec }, writeBuf }⟩

def socketPart : Component (DatagramState P) UdpSocket :=
  ⟨socket, fun socket s => { s with socket }⟩

def setHandler (handler : P.H) (s : DatagramState P) : DatagramState P :=
  { s with pipeline := { s.pipeline with handler } }

def decodeDatagram (src : Bytes) : Exec (DatagramState P) P.Item :=
  EStateM.zoom codecPart (P.decodeDatagram src)

def accept (msg : SocketAddr × P.Write) (s : DatagramState P) : DatagramState P :=
  { s with accepted := s.accepted ++ [msg] }

/-- `DatagramOutboxHandle::push_write` -/
def pushWrite (msg : SocketAddr × P.Write) (s : DatagramState P) : DatagramState P :=
  { s.accept msg with ctx := s.ctx.pushWrite msg }

/-- `DatagramOutboxHandle::push_flush` -/
def pushFlush : Exec (DatagramState P) Sender := do
  let s ← get
  EStateM.zoom ctxPart (Context.pushFlush s.accepted.length)

/-- A message is about to be processed and sent to a peer. -/
def processing (info : DatagramInfo) (peer : SocketAddr) (msg : P.Write) (s : DatagramState P) :
    DatagramState P :=
  { s with processed := s.processed ++
      [⟨info, peer, s.pipeline.outbound, s.pipeline.codec, msg⟩] }

def processOutbound (info : DatagramInfo) (msg : P.Write) : Exec (DatagramState P) Unit :=
  EStateM.zoom outboundPart (P.outboundDatagram info msg)

def encodeDatagramOutbound (info : DatagramInfo) (msg : P.Write) : Exec (DatagramState P) Unit :=
  EStateM.zoom outboundPart (P.outboundDatagram info msg)

/-- A buffer that is still empty, as after a message that a stage stopped, is not sent. -/
def flushDatagram (peer : SocketAddr) : Exec (DatagramState P) Unit := do
  let s ← get
  if s.writeBuf ≠ [] then
    EStateM.zoom socketPart (UdpSocket.sendTo s.writeBuf peer)
    modify ({ · with writeBuf := [] })

/-- The loop of `drain_datagram_outbox` over the commands taken. -/
def drainCommands (info : DatagramInfo) :
    List (DatagramOutboxCommand P.Write) → Traced (Exit Error) (DatagramState P) Unit
  | [] => pure ()
  | .write (peer, msg) :: commands => do
    step (modify (processing info peer msg))
    await (encodeDatagramOutbound info msg)
    await (flushDatagram peer)
    drainCommands info commands
  | .flush done :: commands => do
    step (modify fun s => { s with ctx := s.ctx.send done (.ok ()) })
    drainCommands info commands

def drainDatagramOutbox (info : DatagramInfo) : Traced (Exit Error) (DatagramState P) Unit := do
  let commands ← await (EStateM.zoom ctxPart Context.takeCommands)
  drainCommands info commands

def handlerRuntime (info : DatagramInfo) :
    HandlerRuntime (DatagramState P) (SocketAddr × P.Write) where
  ctx := ctxPart
  pushWrite := pushWrite
  pushFlush := pushFlush
  drainOutbox := drainDatagramOutbox info

/-- The handler on one message, and what it leaves in its outbox. -/
def runHandler (info : DatagramInfo) (msg : P.CurrentIn) :
    Traced (Exit Error) (DatagramState P) Unit := do
  let future := P.read info (← look).pipeline.handler msg
  let (result, handler) ← (handlerRuntime info).pollHandler future
  step (modify (setHandler handler))
  drainDatagramOutbox info
  propagate result

def processInboundFlushable (info : DatagramInfo) (msg : P.Item) :
    Traced (Exit Error) (DatagramState P) Unit := do
  step (modify fun s => { s with delivered := s.delivered ++ [(info.peerAddr, msg)] })
  match ← await (EStateM.zoom inboundPart (P.inbound info msg)) with
  | .stop => return ()
  | .next msg =>
    match ← await (EStateM.zoom businessPart (P.business info msg)) with
    | .stop => return ()
    | .next msg => runHandler info msg

end DatagramState

end RsNetty

import RsNetty.Pipeline.Datagram
import RsNetty.Std.Utf8

/-!
# The task of a UDP socket

One task receives the datagrams of all peers and carries out the commands of the channels, one at a
time. It has no close reasons: it stops, or it stops with an error.
-/

namespace RsNetty
open EStateM Traced

/-- The fields of `UdpSocketConfig` that the task reads. -/
structure UdpSocketConfig where
  readBufferCapacity : Nat := 64 * 1024
  maxDatagramSize : Nat := 64 * 1024

/-- The size of the receive buffer, which holds a datagram of `max_datagram_size`. -/
def UdpSocketConfig.bufferSize (config : UdpSocketConfig) : Nat :=
  max (max config.readBufferCapacity config.maxDatagramSize) 1

/-- A command of a channel. -/
inductive DatagramCommand (W : Type) where
  | writeTo (peerAddr : SocketAddr) (msg : W)
  | writeToAndFlush (peerAddr : SocketAddr) (msg : W) (done : Sender)
  | close

/-- The state of the task. `acks` is what it sent to the senders of `WriteToAndFlush` commands, and
`asked` tells for each of these how many messages had been accepted for output with that of the
command; nothing depends on them. -/
structure DatagramSocketRuntime (P : DatagramStages) where
  id : UInt64
  localAddr : SocketAddr
  io : DatagramState P
  config : UdpSocketConfig
  acks : Acks := []
  asked : List (Sender × Nat) := []

/-- The task as `run_datagram_socket_with_life` enters its loop. -/
def DatagramSocketRuntime.new {P : DatagramStages} (id : UInt64) (localAddr : SocketAddr)
    (socket : UdpSocket) (pipeline : DatagramPipeline P) (config : UdpSocketConfig) :
    DatagramSocketRuntime P where
  id
  localAddr
  io := { pipeline, ctx := {}, socket, writeBuf := [], delivered := [] }
  config

/-- What the task finds ready. -/
inductive SocketEvent (W : Type) where
  /-- A datagram and its sender. -/
  | recv (read : Except String (Bytes × SocketAddr))
  | command (cmd : Option (DatagramCommand W))
  | shutdown

abbrev SocketTask (P : DatagramStages) := Traced (Exit Error) (DatagramSocketRuntime P)

namespace DatagramSocketRuntime
variable {P : DatagramStages}

def ioPart : Component (DatagramSocketRuntime P) (DatagramState P) :=
  ⟨io, fun io rt => { rt with io }⟩

def onIo {α : Type} (x : Traced (Exit Error) (DatagramState P) α) : SocketTask P α :=
  Traced.zoom ioPart x

/-- `DatagramInfo::new` -/
def info (rt : DatagramSocketRuntime P) (peerAddr : SocketAddr) : DatagramInfo :=
  ⟨rt.id, peerAddr, rt.localAddr⟩

/-- A datagram of an acceptable size; the result is whether the handler asked for the task to
stop. -/
def processDatagram (read : Bytes) (peerAddr : SocketAddr) : SocketTask P Bool := do
  let msg ← onIo (await (DatagramState.decodeDatagram read))
  step (modify fun rt => { rt with io := { rt.io with ctx := {} } })
  let info := (← look).info peerAddr
  onIo (DatagramState.processInboundFlushable info msg)
  return (← look).io.ctx.closeRequested

/-- What `recv_from` puts into the receive buffer; the rest of a datagram is lost. -/
def received (rt : DatagramSocketRuntime P) (datagram : Bytes) : Bytes :=
  datagram.take rt.config.bufferSize

/-- The receive arm. -/
def handleDatagram (datagram : Bytes) (peerAddr : SocketAddr) : SocketTask P Bool := do
  let rt ← look
  let read := rt.received datagram
  if read.length > rt.config.maxDatagramSize then
    fail (.err (.datagramTooLarge read.length rt.config.maxDatagramSize))
  else
    processDatagram read peerAddr

/-- A message of the command queue reaches the task. -/
def deliver (msg : SocketAddr × P.Write) : SocketTask P Unit :=
  step (modify fun rt => { rt with io := rt.io.accept msg })

def writeMessage (peerAddr : SocketAddr) (msg : P.Write) : SocketTask P Unit := do
  deliver (peerAddr, msg)
  let info := (← look).info peerAddr
  onIo (step (modify (DatagramState.processing info peerAddr msg)))
  onIo (await (DatagramState.processOutbound info msg))
  onIo (await (DatagramState.flushDatagram peerAddr))

/-- The sender of a `WriteToAndFlush` command is to hear of its message and of those before it. -/
def ask (done : Sender) : SocketTask P Unit :=
  step (modify fun rt => { rt with asked := rt.asked ++ [(done, rt.io.accepted.length + 1)] })

/-- The command arm; it returns whether the task stops. -/
def handleCommand (cmd : Option (DatagramCommand P.Write)) : SocketTask P Bool := do
  match cmd with
  | some (.writeTo peerAddr msg) =>
    writeMessage peerAddr msg
    return false
  | some (.writeToAndFlush peerAddr msg done) =>
    ask done
    let result ← attempt Exit.caught (writeMessage peerAddr msg)
    let ack := result.mapError fun err =>
      .pipeline ("write_to_and_flush failed: " ++ err.display)
    step (modify fun rt => { rt with acks := rt.acks ++ [(done, ack)] })
    propagate result
    return false
  | some .close => return true
  | none => return true

/-- One turn of the loop. -/
def select : SocketEvent P.Write → SocketTask P Bool
  | .recv (.ok (datagram, peerAddr)) => handleDatagram datagram peerAddr
  | .recv (.error err) => fail (.err (.io err))
  | .command cmd => handleCommand cmd
  | .shutdown => return true

/-- The loop, for as long as events arrive: whether it was left. -/
def run : List (SocketEvent P.Write) → SocketTask P Bool
  | [] => return false
  | event :: events => do
    if ← select event then
      return true
    run events

end DatagramSocketRuntime

/-! ## UTF-8 datagrams -/

/-- `Utf8DatagramCodec::decode_datagram` -/
def Utf8DatagramCodec.decodeDatagram (src : Bytes) : Result String :=
  match fromUtf8 src with
  | .ok item => .ok item
  | .error err => .error (.decode err.display)

/-- The pipeline of this codec and a handler that answers every datagram with the same string. -/
def Utf8DatagramCodec.echo : DatagramStages where
  C := Unit
  InP := Unit
  BizP := Unit
  H := Unit
  OutP := Unit
  Item := String
  InOut := String
  CurrentIn := String
  Write := String
  CurrentOut := String
  decodeDatagram src := decodeDatagram src
  encodeDatagram item := EStateM.zoom Component.snd (modify (· ++ asBytes item))
  inbound _ msg := return .next msg
  business _ msg := return .next msg
  read info handler msg := .reply info msg (.ready (.ok ()) handler)
  outbound _ msg := return .next msg

def Utf8DatagramCodec.echoPipeline : DatagramPipeline echo where
  codec := ()
  inbound := ()
  business := ()
  handler := ()
  outbound := ()

end RsNetty

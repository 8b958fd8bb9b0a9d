import RsNetty.Pipeline.Datagram
import RsNetty.Pipeline.Stream

/-!
# Pipelines around a codec

`Decoder` and `Encoder` of a codec that leaves its own fields as they are, and a pipeline whose
stages and handler stand around it.
-/

namespace RsNetty
open EStateM

structure StreamCodec (C Item CurrentOut : Type) where
  decode : C → Exec BytesMut (Option Item)
  encode : C → CurrentOut → Exec BytesMut Unit

/-- The type parameters of a `StreamPipeline` but for its codec. -/
structure CodecStages (Item CurrentOut : Type) : Type 1 where
  InP : Type
  BizP : Type
  H : Type
  OutP : Type
  InOut : Type
  CurrentIn : Type
  Write : Type
  inbound : Item → Exec InP (Flow InOut)
  business : InOut → Exec BizP (Flow CurrentIn)
  read : H → CurrentIn → HandlerFuture H Write
  outbound : Write → Exec OutP (Flow CurrentOut)

/-- `pipeline().codec(..)` and the stages and the handler behind it. -/
def CodecStages.around {C Item CurrentOut : Type} (stages : CodecStages Item CurrentOut)
    (codec : StreamCodec C Item CurrentOut) : StreamStages where
  C := C
  InP := stages.InP
  BizP := stages.BizP
  H := stages.H
  OutP := stages.OutP
  Item := Item
  InOut := stages.InOut
  CurrentIn := stages.CurrentIn
  Write := stages.Write
  CurrentOut := CurrentOut
  decode := do
    let (self, _) ← get
    EStateM.zoom Component.snd (codec.decode self)
  encode item := do
    let (self, _) ← get
    EStateM.zoom Component.snd (codec.encode self item)
  inbound := stages.inbound
  business := stages.business
  read := stages.read
  outbound := stages.outbound

/-- A handler right behind the codec. -/
def CodecStages.direct {H Item CurrentOut : Type}
    (read : H → Item → HandlerFuture H CurrentOut) : CodecStages Item CurrentOut where
  InP := Unit
  BizP := Unit
  H := H
  OutP := Unit
  InOut := Item
  CurrentIn := Item
  Write := CurrentOut
  inbound msg := return .next msg
  business msg := return .next msg
  read := read
  outbound msg := return .next msg

/-- `pipeline().codec(self).handler(handler)` -/
def StreamCodec.pipeline {C H Item CurrentOut : Type} (codec : StreamCodec C Item CurrentOut)
    (self : C) (read : H → Item → HandlerFuture H CurrentOut) (handler : H) :
    StreamPipeline ((CodecStages.direct read).around codec) where
  codec := self
  inbound := ()
  business := ()
  handler := handler
  outbound := ()

/-- `DatagramDecoder` and `DatagramEncoder` of a codec without fields. -/
structure DatagramCodec (Item CurrentOut : Type) where
  decodeDatagram : Bytes → Result Item
  encodeDatagram : CurrentOut → Exec BytesMut Unit

/-- A handler right behind the codec. -/
def DatagramCodec.stages {H Item CurrentOut : Type} (codec : DatagramCodec Item CurrentOut)
    (read : DatagramInfo → H → Item → HandlerFuture H (SocketAddr × CurrentOut)) :
    DatagramStages where
  C := Unit
  InP := Unit
  BizP := Unit
  H := H
  OutP := Unit
  Item := Item
  InOut := Item
  CurrentIn := Item
  Write := CurrentOut
  CurrentOut := CurrentOut
  decodeDatagram src := codec.decodeDatagram src
  encodeDatagram item := EStateM.zoom Component.snd (codec.encodeDatagram item)
  inbound _ msg := return .next msg
  business _ msg := return .next msg
  read := read
  outbound _ msg := return .next msg

/-- `datagram_pipeline().codec(codec).handler(handler)` -/
def DatagramCodec.pipeline {H Item CurrentOut : Type} (codec : DatagramCodec Item CurrentOut)
    (read : DatagramInfo → H → Item → HandlerFuture H (SocketAddr × CurrentOut)) (handler : H) :
    DatagramPipeline (codec.stages read) where
  codec := ()
  inbound := ()
  business := ()
  handler := handler
  outbound := ()

end RsNetty

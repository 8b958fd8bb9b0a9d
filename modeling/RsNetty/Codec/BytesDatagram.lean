import RsNetty.Pipeline.Codec
import RsNetty.Std.Bytes

/-!
# Datagrams of raw bytes
-/

namespace RsNetty
open EStateM

namespace BytesDatagramCodec

def decodeDatagram (src : Bytes) : Result Bytes := .ok src

def encodeDatagram (item : Bytes) : Exec BytesMut Unit := extendFromSlice item

def codec : DatagramCodec Bytes Bytes := ⟨decodeDatagram, encodeDatagram⟩

/-- The pipeline of this codec and a handler that echoes every datagram. -/
def echo : DatagramStages where
  C := Unit
  InP := Unit
  BizP := Unit
  H := Unit
  OutP := Unit
  Item := Bytes
  InOut := Bytes
  CurrentIn := Bytes
  Write := Bytes
  CurrentOut := Bytes
  decodeDatagram src := decodeDatagram src
  encodeDatagram item := EStateM.zoom Component.snd (encodeDatagram item)
  inbound _ msg := return .next msg
  business _ msg := return .next msg
  read info handler msg := .reply info msg (.ready (.ok ()) handler)
  outbound _ msg := return .next msg

def echoPipeline : DatagramPipeline echo where
  codec := ()
  inbound := ()
  business := ()
  handler := ()
  outbound := ()

end BytesDatagramCodec

end RsNetty

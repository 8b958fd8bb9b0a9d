import RsNetty.Pipeline.Codec
import RsNetty.Transport.Udp.Socket

/-!
# Datagrams of text
-/

namespace RsNetty
open EStateM

namespace Utf8DatagramCodec

def encodeDatagram (item : String) : Exec BytesMut Unit := modify (· ++ asBytes item)

def codec : DatagramCodec String String := ⟨decodeDatagram, encodeDatagram⟩

end Utf8DatagramCodec

end RsNetty

import RsNetty.Codec.Line
import RsNetty.Pipeline.Codec

/-!
# JSON stages

Stages between the messages of a handler and their texts, which a framing codec such as `LineCodec`
carries. What the text of a value is, and which value a text denotes, is up to `sonic_rs`.
-/

namespace RsNetty

/-- `sonic_rs` on a type with its `Serialize` and `Deserialize`. An error is its text. -/
structure SonicRs (T : Type) where
  fromSlice : Bytes → Except String T
  toString : T → Except String String

variable {T : Type}

/-- What `JsonDecode<T>` does with a frame of bytes. -/
def decodeJson (sonicRs : SonicRs T) (src : Bytes) : Result (Flow T) :=
  match sonicRs.fromSlice src with
  | .ok value => .ok (.next value)
  | .error err => .error (.decode s!"json decode failed: {err}")

/-- `Inbound<String>` of `JsonDecode<T>` -/
def JsonDecode.read (sonicRs : SonicRs T) (msg : String) : Exec Unit (Flow T) :=
  decodeJson sonicRs (asBytes msg)

/-- `Outbound<T>` of `JsonEncode<T>` -/
def JsonEncode.write (sonicRs : SonicRs T) (msg : T) : Exec Unit (Flow String) :=
  match sonicRs.toString msg with
  | .ok text => return .next text
  | .error err => throw (.encode s!"json encode failed: {err}")

/-- `.inbound(JsonDecode::<I>::new()).handler(handler).outbound(JsonEncode::<O>::new())`, behind a
codec of texts. -/
def CodecStages.json {H I O : Type} (decoder : SonicRs I) (encoder : SonicRs O)
    (read : H → I → HandlerFuture H O) : CodecStages String String where
  InP := Unit
  BizP := Unit
  H := H
  OutP := Unit
  InOut := I
  CurrentIn := I
  Write := O
  inbound := JsonDecode.read decoder
  business msg := return .next msg
  read := read
  outbound := JsonEncode.write encoder

end RsNetty

import RsNetty.Pipeline.Stream
import RsNetty.Std.Bytes

/-!
# Fixed-size binary frames
-/

namespace RsNetty
open EStateM

/-- `new` panics if the length is zero. -/
structure FixedLengthFrameDecoder where
  frameLength : Nat
  frameLength_pos : 0 < frameLength

namespace FixedLengthFrameDecoder

def decode (self : FixedLengthFrameDecoder) : Exec BytesMut (Option Bytes) := do
  let src ← get
  if src.length < self.frameLength then
    return none
  return some (← splitTo self.frameLength)

def encode (self : FixedLengthFrameDecoder) (item : Bytes) : Exec BytesMut Unit := do
  if item.length ≠ self.frameLength then
    throw (.encode s!"fixed frame length mismatch: current={item.length}, expected={self.frameLength}")
  extendFromSlice item

/-- The pipeline of this codec and a handler that writes back every frame. -/
def echo : StreamStages where
  C := FixedLengthFrameDecoder
  InP := Unit
  BizP := Unit
  H := Unit
  OutP := Unit
  Item := Bytes
  InOut := Bytes
  CurrentIn := Bytes
  Write := Bytes
  CurrentOut := Bytes
  decode := do
    let (self, _) ← get
    EStateM.zoom Component.snd self.decode
  encode item := do
    let (self, _) ← get
    EStateM.zoom Component.snd (self.encode item)
  inbound msg := return .next msg
  business msg := return .next msg
  read handler msg := .write msg (.ready (.ok ()) handler)
  outbound msg := return .next msg

instance : DecidableEq echo.Item := inferInstanceAs (DecidableEq Bytes)

def echoPipeline (self : FixedLengthFrameDecoder) : StreamPipeline echo where
  codec := self
  inbound := ()
  business := ()
  handler := ()
  outbound := ()

/-! ## Execution -/

theorem decode_short {self : FixedLengthFrameDecoder} {src : BytesMut}
    (h : src.length < self.frameLength) : self.decode src = .ok none src := by
  rw [decode, get_bind, if_pos h]
  rfl

theorem decode_complete {self : FixedLengthFrameDecoder} {src : BytesMut}
    (h : self.frameLength ≤ src.length) :
    self.decode src = .ok (some (src.take self.frameLength)) (src.drop self.frameLength) := by
  rw [decode, get_bind, if_neg (Nat.not_lt.2 h)]
  exact bind_of_ok (splitTo_ok h)

theorem encode_extends (self : FixedLengthFrameDecoder) (item : Bytes) (dst : BytesMut) :
    dst <+: (self.encode item dst).final := by
  unfold encode
  split
  · exact List.prefix_rfl
  · exact List.prefix_append dst item

end FixedLengthFrameDecoder

end RsNetty

import RsNetty.Std.Bytes

/-!
# Frames with a length field

`LengthFieldBasedFrameDecoder`, which is an encoder as well, and `LengthFieldPrepender`.
-/

namespace RsNetty
open EStateM

/-- Byte order used for numeric length fields. -/
inductive ByteOrder where
  | bigEndian
  | littleEndian
deriving DecidableEq, Repr

/-- `TryFromIntError`, the error of an integer conversion that does not fit. -/
def tryFromIntError : String := "out of range integral type conversion attempted"

/-- Write the length of a frame. A `usize` is no longer than a `u64`. -/
def writeLength (len lengthFieldLength : Nat) (byteOrder : ByteOrder) : Exec BytesMut Unit :=
  match byteOrder, lengthFieldLength with
  | .bigEndian, 1 | .littleEndian, 1 => do
    failIf (len ≥ 2 ^ 8) (.encode tryFromIntError)
    extendFromSlice [UInt8.ofNat len]
  | .bigEndian, 2 => do
    failIf (len ≥ 2 ^ 16) (.encode tryFromIntError)
    extendFromSlice (u16ToBeBytes (UInt16.ofNat len))
  | .littleEndian, 2 => do
    failIf (len ≥ 2 ^ 16) (.encode tryFromIntError)
    extendFromSlice (u16ToBeBytes (UInt16.ofNat len)).reverse
  | .bigEndian, 3 => do
    failIf (len > 0x00ffffff) (.encode s!"length {len} exceeds 24-bit field")
    extendFromSlice [UInt8.ofNat (len >>> 16 &&& 0xff)]
    extendFromSlice [UInt8.ofNat (len >>> 8 &&& 0xff)]
    extendFromSlice [UInt8.ofNat (len &&& 0xff)]
  | .littleEndian, 3 => do
    failIf (len > 0x00ffffff) (.encode s!"length {len} exceeds 24-bit field")
    extendFromSlice [UInt8.ofNat (len &&& 0xff)]
    extendFromSlice [UInt8.ofNat (len >>> 8 &&& 0xff)]
    extendFromSlice [UInt8.ofNat (len >>> 16 &&& 0xff)]
  | .bigEndian, 4 => do
    failIf (len ≥ 2 ^ 32) (.encode tryFromIntError)
    extendFromSlice (u32ToBeBytes (UInt32.ofNat len))
  | .littleEndian, 4 => do
    failIf (len ≥ 2 ^ 32) (.encode tryFromIntError)
    extendFromSlice (u32ToBeBytes (UInt32.ofNat len)).reverse
  | .bigEndian, 8 => do
    failIf (len ≥ 2 ^ 64) (.encode tryFromIntError)
    extendFromSlice (u64ToBeBytes (UInt64.ofNat len))
  | .littleEndian, 8 => do
    failIf (len ≥ 2 ^ 64) (.encode tryFromIntError)
    extendFromSlice (u64ToBeBytes (UInt64.ofNat len)).reverse
  | _, _ => throw (.encode s!"unsupported length field length: {lengthFieldLength}")

/-- Decoder for frames that carry their payload length in the byte stream. -/
structure LengthFieldBasedFrameDecoder where
  maxFrameLength : Nat
  lengthFieldOffset : Nat
  lengthFieldLength : Nat
  lengthAdjustment : Int
  initialBytesToStrip : Nat
  byteOrder : ByteOrder
deriving DecidableEq, Repr

namespace LengthFieldBasedFrameDecoder

def withAdjustment (maxFrameLength lengthFieldOffset lengthFieldLength : Nat)
    (lengthAdjustment : Int) (initialBytesToStrip : Nat) : LengthFieldBasedFrameDecoder :=
  ⟨maxFrameLength, lengthFieldOffset, lengthFieldLength, lengthAdjustment, initialBytesToStrip,
    .bigEndian⟩

def new (maxFrameLength lengthFieldOffset lengthFieldLength : Nat) :
    Result LengthFieldBasedFrameDecoder := do
  let initialBytesToStrip ← usizeAdd lengthFieldOffset lengthFieldLength
  return ⟨maxFrameLength, lengthFieldOffset, lengthFieldLength, 0, initialBytesToStrip, .bigEndian⟩

/-- `byte_order(byte_order)` -/
def withByteOrder (self : LengthFieldBasedFrameDecoder) (byteOrder : ByteOrder) :
    LengthFieldBasedFrameDecoder :=
  { self with byteOrder }

/-- The value of a length field of the supported lengths. -/
def readLength (byteOrder : ByteOrder) (bytes : Bytes) : Result Nat :=
  match byteOrder, bytes with
  | .bigEndian, [b₀] | .littleEndian, [b₀] => .ok b₀.toNat
  | .bigEndian, [b₀, b₁] => .ok (u16FromBeBytes [b₀, b₁]).toNat
  | .littleEndian, [b₀, b₁] => .ok (u16FromBeBytes [b₁, b₀]).toNat
  | .bigEndian, [b₀, b₁, b₂] =>
    .ok (b₀.toUInt64 <<< 16 ||| b₁.toUInt64 <<< 8 ||| b₂.toUInt64).toNat
  | .littleEndian, [b₀, b₁, b₂] =>
    .ok (b₂.toUInt64 <<< 16 ||| b₁.toUInt64 <<< 8 ||| b₀.toUInt64).toNat
  | .bigEndian, [b₀, b₁, b₂, b₃] => .ok (u32FromBeBytes [b₀, b₁, b₂, b₃]).toNat
  | .littleEndian, [b₀, b₁, b₂, b₃] => .ok (u32FromBeBytes [b₃, b₂, b₁, b₀]).toNat
  | .bigEndian, [b₀, b₁, b₂, b₃, b₄, b₅, b₆, b₇] =>
    .ok (u64FromBeBytes [b₀, b₁, b₂, b₃, b₄, b₅, b₆, b₇]).toNat
  | .littleEndian, [b₀, b₁, b₂, b₃, b₄, b₅, b₆, b₇] =>
    .ok (u64FromBeBytes [b₇, b₆, b₅, b₄, b₃, b₂, b₁, b₀]).toNat
  | _, _ => .error (.decode s!"unsupported length field length: {bytes.length}")

/-- The slice has the length of the field, which the source matches on. -/
def readFrameLength (self : LengthFieldBasedFrameDecoder) (src : BytesMut) : Result Nat := do
  let fieldEnd ← usizeAdd self.lengthFieldOffset self.lengthFieldLength
  let bytes ← slice src self.lengthFieldOffset fieldEnd
  readLength self.byteOrder bytes

def writeFrameLength (self : LengthFieldBasedFrameDecoder) (itemLen : Nat) :
    Exec BytesMut Unit := do
  failIf (self.lengthFieldOffset ≠ 0 ∨ self.lengthAdjustment ≠ 0) <| .encode
    "LengthFieldBasedFrameDecoder encoder supports zero offset and zero adjustment only"
  writeLength itemLen self.lengthFieldLength self.byteOrder

/-- Where the frame ends. -/
def frameEnd (self : LengthFieldBasedFrameDecoder) (src : BytesMut) (fieldEnd : Nat) :
    Result Nat := do
  let frameLength ← self.readFrameLength src
  let adjusted ← okOr (checkedAddSigned frameLength self.lengthAdjustment)
    (.decode "negative adjusted frame length")
  let frameEnd ← okOr (checkedAdd fieldEnd adjusted) (.decode "frame length overflow")
  failIf (frameEnd > self.maxFrameLength) (.err (.frameTooLarge frameEnd self.maxFrameLength))
  return frameEnd

def decode (self : LengthFieldBasedFrameDecoder) : Exec BytesMut (Option Bytes) := do
  let src ← get
  let fieldEnd ← usizeAdd self.lengthFieldOffset self.lengthFieldLength
  if src.length < fieldEnd then return none
  else
    let frameEnd ← self.frameEnd src fieldEnd
    if src.length < frameEnd then return none
    else
      failIf (self.initialBytesToStrip > frameEnd) <| .decode
        s!"initial_bytes_to_strip={self.initialBytesToStrip} exceeds frame length={frameEnd}"
      let frame ← splitTo frameEnd
      return some (frame.drop self.initialBytesToStrip)

def encode (self : LengthFieldBasedFrameDecoder) (item : Bytes) : Exec BytesMut Unit := do
  self.writeFrameLength item.length
  extendFromSlice item

end LengthFieldBasedFrameDecoder

/-- Outbound stage that prepends a binary length field. -/
structure LengthFieldPrepender where
  lengthFieldLength : Nat
  byteOrder : ByteOrder
deriving DecidableEq, Repr

namespace LengthFieldPrepender

def new (lengthFieldLength : Nat) : LengthFieldPrepender := ⟨lengthFieldLength, .bigEndian⟩

/-- `byte_order(byte_order)` -/
def withByteOrder (self : LengthFieldPrepender) (byteOrder : ByteOrder) : LengthFieldPrepender :=
  { self with byteOrder }

def encode (self : LengthFieldPrepender) (item : Bytes) : Exec BytesMut Unit := do
  writeLength item.length self.lengthFieldLength self.byteOrder
  extendFromSlice item

end LengthFieldPrepender

end RsNetty

import RsNetty.Codec.Mqtt.Packet
import RsNetty.Std.Bytes
import RsNetty.Std.Utf8

/-!
# MQTT wire primitives

The `Reader` over one packet body, the `write_*` functions, and the variable byte integers. Every
reader method is an `Exec Reader`, every writer an `Exec BytesMut`.
-/

namespace RsNetty.Mqtt
open EStateM

def maxRemainingLength : Nat := 268_435_455

/-! ## Variable byte integers -/

def remainingLengthLenLoop (value len : Nat) : Nat :=
  if value ≥ 128 then remainingLengthLenLoop (value / 128) (len + 1) else len
termination_by value
decreasing_by omega

/-- How many bytes the shortest numeral of `value` takes. -/
def remainingLengthLen (value : Nat) : Nat := remainingLengthLenLoop value 1

def validateVariableIntegerEncoding (value encodedLen : Nat) : Result Unit :=
  if remainingLengthLen value ≠ encodedLen then
    .error (.decode "MQTT variable byte integer is not minimally encoded")
  else .ok ()

/-- The loop of `decode_remaining_length_prefix`, over at most four bytes. -/
def decodeRemainingLengthLoop (multiplier value index : Nat) :
    List UInt8 → Result (Option (Nat × Nat))
  | [] => .ok none
  | encoded :: rest => do
    let value ← usizeAdd value (← usizeMul (encoded &&& 0x7f).toNat multiplier)
    if encoded &&& 0x80 = 0 then
      validateVariableIntegerEncoding value (index + 1)
      return some (value, index + 1)
    else
      decodeRemainingLengthLoop (← usizeMul multiplier 128) value (index + 1) rest

/-- The value and the length of a Remaining Length field, `none` when it is cut short. -/
def decodeRemainingLengthPrefix (src : Bytes) : Result (Option (Nat × Nat)) := do
  match ← decodeRemainingLengthLoop 1 0 0 (src.take 4) with
  | some found => return some found
  | none =>
    if src.length ≥ 4 then throw (.decode "malformed MQTT Remaining Length")
    else return none

def writeVariableIntegerLoop (value : UInt32) : Exec BytesMut Unit := do
  let encoded := (value % 128).toUInt8
  let encoded := if value / 128 > 0 then encoded ||| 0x80 else encoded
  extendFromSlice [encoded]
  if value / 128 = 0 then return () else writeVariableIntegerLoop (value / 128)
termination_by value.toNat
decreasing_by
  rename_i h
  have h0 : (value / 128).toNat ≠ 0 := fun h' => h (UInt32.toNat.inj h')
  rw [UInt32.toNat_div] at h0 ⊢
  exact Nat.div_lt_self (Nat.pos_of_ne_zero fun hz => by simp [hz] at h0) (by decide)

def writeVariableInteger (value : UInt32) : Exec BytesMut Unit := do
  if value.toNat > maxRemainingLength then
    throw (.encode s!"MQTT variable integer too large: {value}")
  else writeVariableIntegerLoop value

/-! ## Writers -/

def writeU8 (value : UInt8) : Exec BytesMut Unit := extendFromSlice [value]

def writeU16 (value : UInt16) : Exec BytesMut Unit := extendFromSlice (u16ToBeBytes value)

def writeU32 (value : UInt32) : Exec BytesMut Unit := extendFromSlice (u32ToBeBytes value)

/-- `u16::try_from(len)`, with its error text. -/
def lenAsU16 (len : Nat) : Result UInt16 :=
  if len < 2 ^ 16 then .ok (UInt16.ofNat len)
  else .error (.encode "out of range integral type conversion attempted")

def writeUtf8String (value : String) : Exec BytesMut Unit := do
  let len ← lenAsU16 (asBytes value).length
  writeU16 len
  extendFromSlice (asBytes value)

def writeBinaryData (value : Bytes) : Exec BytesMut Unit := do
  let len ← lenAsU16 value.length
  writeU16 len
  extendFromSlice value

/-! ## The reader -/

/-- A position in one packet body. -/
structure Reader where
  src : Bytes
  pos : Nat
deriving DecidableEq, Repr

namespace Reader

def new (src : Bytes) : Reader := ⟨src, 0⟩

def remaining (self : Reader) : Nat := self.src.length - self.pos

def readExact (len : Nat) : Exec Reader Bytes := do
  let self ← get
  if self.remaining < len then
    throw (.decode
      s!"unexpected end of MQTT packet: need {len}, remaining {self.remaining}")
  else
    set { self with pos := self.pos + len }
    slice self.src self.pos (self.pos + len)

def readU8 : Exec Reader UInt8 := do
  let bytes ← readExact 1
  index bytes 0

def readU16 : Exec Reader UInt16 := do
  let bytes ← readExact 2
  return u16FromBeBytes [← index bytes 0, ← index bytes 1]

def readU32 : Exec Reader UInt32 := do
  let bytes ← readExact 4
  return u32FromBeBytes [← index bytes 0, ← index bytes 1, ← index bytes 2, ← index bytes 3]

def readUtf8String : Exec Reader String := do
  let len ← readU16
  let bytes ← readExact len.toNat
  lifted ((fromUtf8 bytes).mapError fun err => Fault.decode err.display)

def readBinaryData : Exec Reader Bytes := do
  let len ← readU16
  readExact len.toNat

/-- The loop of `read_variable_integer`; the last argument counts the iterations left. -/
def readVariableIntegerLoop (multiplier value : UInt32) (encodedLen : Nat) :
    Nat → Exec Reader UInt32
  | 0 => throw (.decode "malformed MQTT variable integer")
  | n + 1 => do
    let encoded ← readU8
    let value ← u32Add value (← u32Mul (encoded &&& 0x7f).toUInt32 multiplier)
    if encoded &&& 0x80 = 0 then
      validateVariableIntegerEncoding value.toNat encodedLen
      return value
    else
      readVariableIntegerLoop (← u32Mul multiplier 128) value (encodedLen + 1) n

def readVariableInteger : Exec Reader UInt32 := readVariableIntegerLoop 1 0 1 4

def readRemainingBytes : Exec Reader Bytes := do
  let self ← get
  let bytes ← sliceFrom self.src self.pos
  set { self with pos := self.src.length }
  return bytes

/-- `while reader.remaining() > 0 { items.push(item(reader)?) }`. Every item takes a byte at least,
so as many iterations as there are bytes left are enough. -/
def whileRemaining (item : Exec Reader α) : Nat → Exec Reader (List α)
  | 0 => do
    let self ← get
    if self.remaining > 0 then throw .panic else return []
  | fuel + 1 => do
    let self ← get
    if self.remaining > 0 then
      let first ← item
      let rest ← whileRemaining item fuel
      return first :: rest
    else return []

end Reader

end RsNetty.Mqtt

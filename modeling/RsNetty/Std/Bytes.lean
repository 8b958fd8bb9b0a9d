import RsNetty.Error
import RsNetty.Theory.BigEndian
import Mathlib.Data.List.Basic

/-!
# Byte buffers

Slices and splits panic when they are out of range. Integers are converted to and from their
big-endian bytes.
-/

namespace RsNetty
open EStateM

/-- `&b[i..j]` -/
def slice (b : List UInt8) (i j : Nat) : Result (List UInt8) :=
  if i ≤ j ∧ j ≤ b.length then .ok ((b.drop i).take (j - i)) else .error .panic

/-- `&b[i..]` -/
def sliceFrom (b : List UInt8) (i : Nat) : Result (List UInt8) := slice b i b.length

/-- `b[i]` -/
def index (b : List UInt8) (i : Nat) : Result UInt8 := okOr b[i]? .panic

/-- `buf.split_to(n)` -/
def splitTo (n : Nat) : Exec BytesMut BytesMut := do
  let buf ← get
  if buf.length < n then throw .panic
  set (buf.drop n)
  return buf.take n

/-- `buf.extend_from_slice(bytes)` -/
def extendFromSlice (bytes : List UInt8) : Exec BytesMut Unit := modify (· ++ bytes)

def u16ToBeBytes (v : UInt16) : Bytes := BigEndian.encode 2 v.toNat

def u16FromBeBytes (bs : Bytes) : UInt16 := UInt16.ofNat (BigEndian.decode bs)

def u32ToBeBytes (v : UInt32) : Bytes := BigEndian.encode 4 v.toNat

def u32FromBeBytes (bs : Bytes) : UInt32 := UInt32.ofNat (BigEndian.decode bs)

def u64ToBeBytes (v : UInt64) : Bytes := BigEndian.encode 8 v.toNat

def u64FromBeBytes (bs : Bytes) : UInt64 := UInt64.ofNat (BigEndian.decode bs)

/-- A fact about every byte is a fact about the 256 of them. -/
theorem forall_byte {p : UInt8 → Prop} (h : ∀ n : Fin 256, p (UInt8.ofNat n)) (b : UInt8) : p b := by
  have := h ⟨b.toNat, b.toNat_lt⟩
  rwa [UInt8.ofNat_toNat] at this

/-! ## Execution -/

theorem slice_ok {b : List UInt8} {i j : Nat} (h : i ≤ j ∧ j ≤ b.length) :
    slice b i j = .ok ((b.drop i).take (j - i)) :=
  if_pos h

theorem slice_append {b : Bytes} (h : j ≤ b.length) (r : Bytes) :
    slice (b ++ r) i j = slice b i j := by
  unfold slice
  by_cases hi : i ≤ j
  · rw [if_pos ⟨hi, by rw [List.length_append]; omega⟩, if_pos ⟨hi, h⟩,
      List.drop_append_of_le_length (by omega),
      List.take_append_of_le_length (by rw [List.length_drop]; omega)]
  · rw [if_neg (fun hc => hi hc.1), if_neg (fun hc => hi hc.1)]

theorem sliceFrom_ok {b : List UInt8} {i : Nat} (h : i ≤ b.length) :
    sliceFrom b i = .ok (b.drop i) := by
  rw [sliceFrom, slice_ok ⟨h, Nat.le_refl _⟩, List.take_of_length_le (by simp)]

theorem index_ok {b : List UInt8} {i : Nat} (h : b[i]? = some v) : index b i = .ok v := by
  rw [index, h, okOr]

theorem splitTo_ok {n : Nat} {buf : BytesMut} (h : n ≤ buf.length) :
    splitTo n buf = .ok (buf.take n) (buf.drop n) := by
  simp only [splitTo, get_bind, if_neg (Nat.not_lt.2 h)]
  rfl

theorem extendFromSlice_eq (bytes : List UInt8) (buf : BytesMut) :
    extendFromSlice bytes buf = .ok () (buf ++ bytes) := rfl

theorem emits_extendFromSlice (bytes : List UInt8) : Emits (extendFromSlice bytes) () bytes :=
  extendFromSlice_eq bytes

theorem appendOnly_extendFromSlice (bytes : List UInt8) : AppendOnly (extendFromSlice bytes) :=
  AppendOnly.append bytes

/-! ## Integer bytes -/

@[simp] theorem length_u16ToBeBytes (v : UInt16) : (u16ToBeBytes v).length = 2 := by
  simp [u16ToBeBytes]

@[simp] theorem length_u32ToBeBytes (v : UInt32) : (u32ToBeBytes v).length = 4 := by
  simp [u32ToBeBytes]

@[simp] theorem length_u64ToBeBytes (v : UInt64) : (u64ToBeBytes v).length = 8 := by
  simp [u64ToBeBytes]

@[simp] theorem u16FromBeBytes_toBeBytes (v : UInt16) : u16FromBeBytes (u16ToBeBytes v) = v := by
  have hv : v.toNat < 256 ^ 2 := v.toNat_lt
  rw [u16FromBeBytes, u16ToBeBytes, BigEndian.decode_encode hv, UInt16.ofNat_toNat]

@[simp] theorem u32FromBeBytes_toBeBytes (v : UInt32) : u32FromBeBytes (u32ToBeBytes v) = v := by
  have hv : v.toNat < 256 ^ 4 := v.toNat_lt
  rw [u32FromBeBytes, u32ToBeBytes, BigEndian.decode_encode hv, UInt32.ofNat_toNat]

@[simp] theorem u64FromBeBytes_toBeBytes (v : UInt64) : u64FromBeBytes (u64ToBeBytes v) = v := by
  have hv : v.toNat < 256 ^ 8 := v.toNat_lt
  rw [u64FromBeBytes, u64ToBeBytes, BigEndian.decode_encode hv, UInt64.ofNat_toNat]

theorem toNat_u16FromBeBytes {bs : Bytes} (h : bs.length = 2) :
    (u16FromBeBytes bs).toNat = BigEndian.decode bs := by
  have hv : BigEndian.decode bs < 2 ^ 16 := by
    have := BigEndian.decode_lt bs
    rwa [h] at this
  rw [u16FromBeBytes, UInt16.toNat_ofNat_of_lt' hv]

theorem u16ToBeBytes_fromBeBytes {bs : Bytes} (h : bs.length = 2) :
    u16ToBeBytes (u16FromBeBytes bs) = bs := by
  rw [u16ToBeBytes, toNat_u16FromBeBytes h, ← h, BigEndian.encode_decode]

theorem toNat_u32FromBeBytes {bs : Bytes} (h : bs.length = 4) :
    (u32FromBeBytes bs).toNat = BigEndian.decode bs := by
  have hv : BigEndian.decode bs < 2 ^ 32 := by
    have := BigEndian.decode_lt bs
    rwa [h] at this
  rw [u32FromBeBytes, UInt32.toNat_ofNat_of_lt' hv]

theorem u32ToBeBytes_fromBeBytes {bs : Bytes} (h : bs.length = 4) :
    u32ToBeBytes (u32FromBeBytes bs) = bs := by
  rw [u32ToBeBytes, toNat_u32FromBeBytes h, ← h, BigEndian.encode_decode]

theorem toNat_u64FromBeBytes {bs : Bytes} (h : bs.length = 8) :
    (u64FromBeBytes bs).toNat = BigEndian.decode bs := by
  have hv : BigEndian.decode bs < 2 ^ 64 := by
    have := BigEndian.decode_lt bs
    rwa [h] at this
  rw [u64FromBeBytes, UInt64.toNat_ofNat_of_lt' hv]

end RsNetty

import RsNetty.Codec.LengthFieldBasedFrame
import RsNetty.Theory.Segmentation

/-!
# Frames with a length field

What the field says, and what the decoder does with a buffer in each case. A call on the first part
of a buffer is a call on the whole buffer (`decode_stable`).
-/

namespace RsNetty
open EStateM Segmentation

/-! ## The length field -/

/-- The lengths that a length field may have. -/
def lengthFieldLengths : List Nat := [1, 2, 3, 4, 8]

/-- The big-endian form of a field, and back. -/
def ByteOrder.arrange : ByteOrder → Bytes → Bytes
  | .bigEndian, bytes => bytes
  | .littleEndian, bytes => bytes.reverse

@[simp] theorem ByteOrder.arrange_arrange (byteOrder : ByteOrder) (bytes : Bytes) :
    byteOrder.arrange (byteOrder.arrange bytes) = bytes := by
  cases byteOrder <;> simp [arrange]

@[simp] theorem ByteOrder.length_arrange (byteOrder : ByteOrder) (bytes : Bytes) :
    (byteOrder.arrange bytes).length = bytes.length := by
  cases byteOrder <;> simp [arrange]

/-- A length in a field of the given length. -/
def lengthField (byteOrder : ByteOrder) (lengthFieldLength len : Nat) : Bytes :=
  byteOrder.arrange (BigEndian.encode lengthFieldLength len)

@[simp] theorem length_lengthField (byteOrder : ByteOrder) (lengthFieldLength len : Nat) :
    (lengthField byteOrder lengthFieldLength len).length = lengthFieldLength := by
  simp [lengthField]

/-- Three bytes shifted into a word. -/
theorem toNat_u24 (b₀ b₁ b₂ : UInt8) :
    (b₀.toUInt64 <<< 16 ||| b₁.toUInt64 <<< 8 ||| b₂.toUInt64).toNat =
      BigEndian.decode [b₀, b₁, b₂] := by
  have h₀ := b₀.toNat_lt
  have h₁ := b₁.toNat_lt
  have h₂ := b₂.toNat_lt
  have hlow : b₁.toNat <<< 8 ||| b₂.toNat = b₁.toNat <<< 8 + b₂.toNat :=
    (Nat.shiftLeft_add_eq_or_of_lt h₂ _).symm
  have hlt : b₁.toNat <<< 8 + b₂.toNat < 2 ^ 16 := by
    rw [Nat.shiftLeft_eq]
    omega
  have hhigh : b₀.toNat <<< 16 % 2 ^ 64 = b₀.toNat <<< 16 := Nat.mod_eq_of_lt (by
    rw [Nat.shiftLeft_eq]
    omega)
  have hmiddle : b₁.toNat <<< 8 % 2 ^ 64 = b₁.toNat <<< 8 := Nat.mod_eq_of_lt (by omega)
  calc (b₀.toUInt64 <<< 16 ||| b₁.toUInt64 <<< 8 ||| b₂.toUInt64).toNat
      = b₀.toNat <<< 16 % 2 ^ 64 ||| b₁.toNat <<< 8 % 2 ^ 64 ||| b₂.toNat := by simp
    _ = b₀.toNat <<< 16 + (b₁.toNat <<< 8 + b₂.toNat) := by
      rw [hhigh, hmiddle, Nat.or_assoc, hlow, Nat.shiftLeft_add_eq_or_of_lt hlt]
    _ = BigEndian.decode [b₀, b₁, b₂] := by
      simp [BigEndian.decode, Nat.shiftLeft_eq]

namespace LengthFieldBasedFrameDecoder

theorem readLength_eq (byteOrder : ByteOrder) {bytes : Bytes}
    (h : bytes.length ∈ lengthFieldLengths) :
    readLength byteOrder bytes = .ok (BigEndian.decode (byteOrder.arrange bytes)) := by
  match bytes, h with
  | [b₀], _ => cases byteOrder <;> simp [readLength, ByteOrder.arrange, BigEndian.decode]
  | [b₀, b₁], _ =>
    cases byteOrder <;> simp [readLength, ByteOrder.arrange, toNat_u16FromBeBytes]
  | [b₀, b₁, b₂], _ =>
    cases byteOrder <;> rw [readLength, toNat_u24] <;> rfl
  | [b₀, b₁, b₂, b₃], _ =>
    cases byteOrder <;> simp [readLength, ByteOrder.arrange, toNat_u32FromBeBytes]
  | [b₀, b₁, b₂, b₃, b₄, b₅, b₆, b₇], _ =>
    cases byteOrder <;> simp [readLength, ByteOrder.arrange, toNat_u64FromBeBytes]

end LengthFieldBasedFrameDecoder

/-- The bytes of a length that fits, written behind the check that it does. -/
theorem writeLength_branch {c : Prop} [Decidable c] {e : Fault} {x : Exec BytesMut Unit}
    (hx : Emits x () w) (hc : ¬c ↔ len < 256 ^ n)
    (hw : len < 256 ^ n → w = lengthField byteOrder n len) {dst dst' : BytesMut} :
    (liftM (failIf c e : Result Unit) >>= fun _ => x : Exec BytesMut Unit) dst = .ok () dst' ↔
      len < 256 ^ n ∧ dst' = dst ++ lengthField byteOrder n len := by
  rw [Exec.call_eq_ok]
  constructor
  · rintro ⟨_, hfits, h⟩
    cases (hx dst).symm.trans h
    have hlen := hc.1 (failIf_eq_ok.1 hfits)
    exact ⟨hlen, by rw [hw hlen]⟩
  · rintro ⟨hlen, rfl⟩
    exact ⟨(), failIf_eq_ok.2 (hc.2 hlen), by rw [hx dst, hw hlen]⟩

theorem u16ToBeBytes_ofNat (h : len < 256 ^ 2) :
    u16ToBeBytes (UInt16.ofNat len) = BigEndian.encode 2 len := by
  rw [u16ToBeBytes, UInt16.toNat_ofNat_of_lt' h]

theorem u32ToBeBytes_ofNat (h : len < 256 ^ 4) :
    u32ToBeBytes (UInt32.ofNat len) = BigEndian.encode 4 len := by
  rw [u32ToBeBytes, UInt32.toNat_ofNat_of_lt' h]

theorem u64ToBeBytes_ofNat (h : len < 256 ^ 8) :
    u64ToBeBytes (UInt64.ofNat len) = BigEndian.encode 8 len := by
  rw [u64ToBeBytes, UInt64.toNat_ofNat_of_lt' h]

/-- The three bytes cut out of a length. -/
theorem u24_bytes (len : Nat) : BigEndian.encode 3 len =
    [UInt8.ofNat (len >>> 16 &&& 0xff), UInt8.ofNat (len >>> 8 &&& 0xff),
      UInt8.ofNat (len &&& 0xff)] := by
  have hmask (v : Nat) : UInt8.ofNat (v &&& 0xff) = UInt8.ofNat v := by
    apply UInt8.toNat.inj
    have hand : v &&& 255 = v % 256 := Nat.and_two_pow_sub_one_eq_mod v 8
    rw [UInt8.toNat_ofNat', UInt8.toNat_ofNat', hand, Nat.mod_mod]
  rw [hmask, hmask, hmask, Nat.shiftRight_eq_div_pow, Nat.shiftRight_eq_div_pow]
  simp [BigEndian.encode]

/-- A length is written exactly if it fits in its field. -/
theorem writeLength_eq_ok_iff (byteOrder : ByteOrder) {lengthFieldLength : Nat}
    (h : lengthFieldLength ∈ lengthFieldLengths) {len : Nat} {dst dst' : BytesMut} :
    writeLength len lengthFieldLength byteOrder dst = .ok () dst' ↔
      len < 256 ^ lengthFieldLength ∧ dst' = dst ++ lengthField byteOrder lengthFieldLength len := by
  simp only [lengthFieldLengths, List.mem_cons, List.not_mem_nil, or_false] at h
  have hone (order : ByteOrder) : lengthField order 1 len = [UInt8.ofNat len] := by
    cases order <;> simp [lengthField, ByteOrder.arrange, BigEndian.encode]
  have hthree (b₀ b₁ b₂ : UInt8) : Emits (do
      extendFromSlice [b₀]
      extendFromSlice [b₁]
      extendFromSlice [b₂]) () [b₀, b₁, b₂] :=
    (emits_extendFromSlice [b₀]).bind
      ((emits_extendFromSlice [b₁]).bind (emits_extendFromSlice [b₂]))
  rcases h with rfl | rfl | rfl | rfl | rfl <;> cases byteOrder
  case inl.bigEndian | inl.littleEndian =>
    exact writeLength_branch (emits_extendFromSlice _) (by omega) fun _ => (hone _).symm
  case inr.inl.bigEndian =>
    refine writeLength_branch (emits_extendFromSlice _) (by omega) fun hlen => ?_
    rw [u16ToBeBytes_ofNat hlen]
    rfl
  case inr.inl.littleEndian =>
    refine writeLength_branch (emits_extendFromSlice _) (by omega) fun hlen => ?_
    rw [u16ToBeBytes_ofNat hlen]
    rfl
  case inr.inr.inl.bigEndian =>
    exact writeLength_branch (hthree _ _ _) (by omega) fun _ => (u24_bytes len).symm
  case inr.inr.inl.littleEndian =>
    refine writeLength_branch (hthree _ _ _) (by omega) fun _ => ?_
    rw [lengthField, u24_bytes]
    rfl
  case inr.inr.inr.inl.bigEndian =>
    refine writeLength_branch (emits_extendFromSlice _) (by omega) fun hlen => ?_
    rw [u32ToBeBytes_ofNat hlen]
    rfl
  case inr.inr.inr.inl.littleEndian =>
    refine writeLength_branch (emits_extendFromSlice _) (by omega) fun hlen => ?_
    rw [u32ToBeBytes_ofNat hlen]
    rfl
  case inr.inr.inr.inr.bigEndian =>
    refine writeLength_branch (emits_extendFromSlice _) (by omega) fun hlen => ?_
    rw [u64ToBeBytes_ofNat hlen]
    rfl
  case inr.inr.inr.inr.littleEndian =>
    refine writeLength_branch (emits_extendFromSlice _) (by omega) fun hlen => ?_
    rw [u64ToBeBytes_ofNat hlen]
    rfl

/-! ## The decoder -/

namespace LengthFieldBasedFrameDecoder
variable {self : LengthFieldBasedFrameDecoder} {src : BytesMut}

theorem decode_overflow (h : usizeAdd self.lengthFieldOffset self.lengthFieldLength = .error e) :
    self.decode src = .error e src := by
  rw [decode, get_bind, h]
  rfl

section Field
variable (hfield : usizeAdd self.lengthFieldOffset self.lengthFieldLength = .ok fieldEnd)
include hfield

theorem decode_noField (hlen : src.length < fieldEnd) : self.decode src = .ok none src := by
  rw [decode, get_bind, hfield, Exec.call_ok, if_pos hlen]
  rfl

theorem decode_malformed (hlen : fieldEnd ≤ src.length)
    (h : self.frameEnd src fieldEnd = .error e) : self.decode src = .error e src := by
  rw [decode, get_bind, hfield, Exec.call_ok, if_neg (Nat.not_lt.2 hlen), h]
  rfl

theorem decode_short (hlen : fieldEnd ≤ src.length) (h : self.frameEnd src fieldEnd = .ok n)
    (hshort : src.length < n) : self.decode src = .ok none src := by
  rw [decode, get_bind, hfield, Exec.call_ok, if_neg (Nat.not_lt.2 hlen), h, Exec.call_ok,
    if_pos hshort]
  rfl

theorem decode_overstripped (hlen : fieldEnd ≤ src.length)
    (h : self.frameEnd src fieldEnd = .ok n) (hcomplete : n ≤ src.length)
    (hstrip : self.initialBytesToStrip > n) :
    self.decode src = .error (.decode
      s!"initial_bytes_to_strip={self.initialBytesToStrip} exceeds frame length={n}") src := by
  rw [decode, get_bind, hfield, Exec.call_ok, if_neg (Nat.not_lt.2 hlen), h, Exec.call_ok,
    if_neg (Nat.not_lt.2 hcomplete), failIf, if_pos hstrip]
  rfl

theorem decode_complete (hlen : fieldEnd ≤ src.length) (h : self.frameEnd src fieldEnd = .ok n)
    (hcomplete : n ≤ src.length) (hstrip : self.initialBytesToStrip ≤ n) :
    self.decode src =
      .ok (some ((src.take n).drop self.initialBytesToStrip)) (src.drop n) := by
  rw [decode, get_bind, hfield, Exec.call_ok, if_neg (Nat.not_lt.2 hlen), h, Exec.call_ok,
    if_neg (Nat.not_lt.2 hcomplete), failIf_eq_ok.2 (Nat.not_lt.2 hstrip), Exec.call_ok,
    bind_of_ok (splitTo_ok hcomplete)]
  rfl

/-- Once the length field is there, what follows does not change the end of the frame. -/
theorem frameEnd_append (hlen : fieldEnd ≤ src.length) (r : BytesMut) :
    self.frameEnd (src ++ r) fieldEnd = self.frameEnd src fieldEnd := by
  have hread : self.readFrameLength (src ++ r) = self.readFrameLength src := by
    rw [readFrameLength, readFrameLength, hfield, Except.ok_bind, Except.ok_bind,
      slice_append hlen]
  rw [frameEnd, frameEnd, hread]

/-- A frame has a length field, which is not empty. -/
theorem frameEnd_pos (h : self.frameEnd src fieldEnd = .ok n) : 0 < n := by
  obtain ⟨frameLength, hread, h⟩ := Except.bind_eq_ok.1 h
  obtain ⟨adjusted, -, h⟩ := Except.bind_eq_ok.1 h
  obtain ⟨frameEnd, hend, h⟩ := Except.bind_eq_ok.1 h
  obtain ⟨_, -, h⟩ := Except.bind_eq_ok.1 h
  cases h
  obtain ⟨-, rfl⟩ := checkedAdd_eq_some.1 (okOr_eq_ok.1 hend)
  rw [readFrameLength, hfield, Except.ok_bind] at hread
  obtain ⟨bytes, hslice, hlength⟩ := Except.bind_eq_ok.1 hread
  refine Nat.add_pos_left (Nat.pos_of_ne_zero ?_) _
  rintro rfl
  have hbytes : bytes = [] := by
    unfold slice at hslice
    split at hslice
    · cases hslice
      rw [Nat.zero_sub, List.take_zero]
    · cases hslice
  rw [hbytes] at hlength
  cases horder : self.byteOrder <;> rw [horder] at hlength <;> cases hlength

end Field

/-- What the decoder decides about a buffer stays decided when more follows. -/
theorem decode_stable (self : LengthFieldBasedFrameDecoder) (b r : Bytes) :
    StableCall self.decode Eq b r := by
  cases hfield : usizeAdd self.lengthFieldOffset self.lengthFieldLength with
  | error e => exact .error (decode_overflow hfield) (decode_overflow hfield) rfl
  | ok fieldEnd =>
    by_cases hlen : b.length < fieldEnd
    · exact .none (decode_noField hfield hlen)
    · have hlen := Nat.le_of_not_lt hlen
      have hlong : fieldEnd ≤ (b ++ r).length := by
        rw [List.length_append]
        omega
      have happend := frameEnd_append hfield hlen r
      cases hend : self.frameEnd b fieldEnd with
      | error e =>
        exact .error (decode_malformed hfield hlen hend)
          (decode_malformed hfield hlong (happend.trans hend)) rfl
      | ok n =>
        by_cases hshort : b.length < n
        · exact .none (decode_short hfield hlen hend hshort)
        · have hcomplete := Nat.le_of_not_lt hshort
          have hcomplete' : n ≤ (b ++ r).length := by
            rw [List.length_append]
            omega
          by_cases hstrip : self.initialBytesToStrip ≤ n
          · have hb := decode_complete hfield hlen hend hcomplete hstrip
            have hbr := decode_complete hfield hlong (happend.trans hend) hcomplete' hstrip
            rw [List.take_append_of_le_length hcomplete, List.drop_append_of_le_length hcomplete]
              at hbr
            have hpos := frameEnd_pos hfield hend
            exact .item hb (by rw [List.length_drop]; omega) hbr
          · have hstrip := Nat.lt_of_not_le hstrip
            exact .error (decode_overstripped hfield hlen hend hcomplete hstrip)
              (decode_overstripped hfield hlong (happend.trans hend) hcomplete' hstrip) rfl

end LengthFieldBasedFrameDecoder

/-- Without an offset and an adjustment the decoder writes what the prepender writes. -/
theorem LengthFieldBasedFrameDecoder.encode_eq_prepender {self : LengthFieldBasedFrameDecoder}
    (hoffset : self.lengthFieldOffset = 0) (hadjustment : self.lengthAdjustment = 0) :
    self.encode = LengthFieldPrepender.encode ⟨self.lengthFieldLength, self.byteOrder⟩ := by
  funext item
  have hplain : ¬(self.lengthFieldOffset ≠ 0 ∨ self.lengthAdjustment ≠ 0) := by
    simp [hoffset, hadjustment]
  rw [encode, writeFrameLength, failIf_eq_ok.2 hplain, Exec.call_ok]
  rfl

namespace LengthFieldPrepender

theorem encode_eq_ok {self : LengthFieldPrepender}
    (hfield : self.lengthFieldLength ∈ lengthFieldLengths)
    (h : self.encode item dst = .ok () dst') : item.length < 256 ^ self.lengthFieldLength ∧
      dst' = dst ++ (lengthField self.byteOrder self.lengthFieldLength item.length ++ item) := by
  obtain ⟨_, dst₁, hlength, h⟩ := bind_eq_ok.1 h
  obtain ⟨hlen, rfl⟩ := (writeLength_eq_ok_iff self.byteOrder hfield).1 hlength
  cases h
  exact ⟨hlen, List.append_assoc _ _ _⟩

end LengthFieldPrepender

end RsNetty

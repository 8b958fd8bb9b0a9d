import RsNetty.Codec.Mqtt.Wire
import RsNetty.Theory.Cursor
import RsNetty.Theory.Varint

/-!
# Fields of an MQTT packet

The `Reader` is a cursor over the packet body. Each kind of field has three facts: its writer only
appends, its reader takes exactly what the writer emits (`reads_*`), and what its reader accepts is
what the writer emits for the value returned (`parses_*`).
-/

namespace RsNetty.Mqtt
open EStateM Reader Cursor

/-! ## Bytes of a numeral -/

theorem toNat_and_7f (b : UInt8) : (b &&& 0x7f).toNat = b.toNat % 128 := by
  rw [UInt8.toNat_and]
  exact Nat.and_two_pow_sub_one_eq_mod b.toNat 7

theorem and_80_eq_zero_iff (b : UInt8) : b &&& 0x80 = 0 ↔ b.toNat < 128 := by
  revert b
  exact forall_byte (by decide +kernel)

theorem or_80_of_lt (b : UInt8) :
    b.toNat < 128 → b ||| 0x80 = UInt8.ofNat (b.toNat + 128) := by
  revert b
  exact forall_byte (by decide +kernel)

theorem remainingLengthLenLoop_eq (value len : Nat) :
    remainingLengthLenLoop value len + 1 = len + (Varint.encode value).length := by
  induction value using Nat.strongRecOn generalizing len with
  | ind value ih =>
    rw [remainingLengthLenLoop]
    by_cases h : value ≥ 128
    · rw [if_pos h, ih _ (by omega), Varint.encode_of_ge h, List.length_cons]
      omega
    · rw [if_neg h, Varint.encode_of_lt (by omega), List.length_singleton]

theorem remainingLengthLen_eq (value : Nat) :
    remainingLengthLen value = (Varint.encode value).length := by
  have := remainingLengthLenLoop_eq value 1
  rw [remainingLengthLen]
  omega

theorem validateVariableIntegerEncoding_eq_ok :
    validateVariableIntegerEncoding value len = .ok () ↔ (Varint.encode value).length = len := by
  rw [validateVariableIntegerEncoding, remainingLengthLen_eq]
  split <;> simp_all

theorem lt_of_le_maxRemainingLength {v : Nat} (h : v ≤ maxRemainingLength) : v < 128 ^ 4 := by
  rw [maxRemainingLength] at h
  omega

theorem le_maxRemainingLength_of_lt {v : Nat} (h : v < 128 ^ 4) : v ≤ maxRemainingLength := by
  rw [maxRemainingLength]
  omega

theorem length_encode_le_four {v : Nat} (h : v ≤ maxRemainingLength) :
    (Varint.encode v).length ≤ 4 :=
  Varint.length_encode_le (lt_of_le_maxRemainingLength h)

/-! ## Writers -/

theorem appendOnly_writeU8 (v : UInt8) : AppendOnly (writeU8 v) := AppendOnly.append _

theorem appendOnly_writeU16 (v : UInt16) : AppendOnly (writeU16 v) := AppendOnly.append _

theorem appendOnly_writeU32 (v : UInt32) : AppendOnly (writeU32 v) := AppendOnly.append _

theorem appendOnly_writeUtf8String (v : String) : AppendOnly (writeUtf8String v) :=
  (AppendOnly.lifted _).bind fun _ => (appendOnly_writeU16 _).bind fun _ => AppendOnly.append _

theorem appendOnly_writeBinaryData (v : Bytes) : AppendOnly (writeBinaryData v) :=
  (AppendOnly.lifted _).bind fun _ => (appendOnly_writeU16 _).bind fun _ => AppendOnly.append _

theorem lenAsU16_eq_ok : lenAsU16 n = .ok len ↔ len.toNat = n := by
  unfold lenAsU16
  by_cases h : n < 2 ^ 16
  · rw [if_pos h, Except.ok.injEq]
    constructor
    · rintro rfl
      exact UInt16.toNat_ofNat_of_lt' h
    · rintro rfl
      exact UInt16.ofNat_toNat
  · rw [if_neg h]
    simp only [reduceCtorEq, false_iff]
    rintro rfl
    exact h len.toNat_lt

/-- The length prefix and the bytes. -/
theorem emits_writeBinaryData {v : Bytes} {len : UInt16} (h : len.toNat = v.length) :
    Emits (writeBinaryData v) () (u16ToBeBytes len ++ v) :=
  Emits.lifted_bind (lenAsU16_eq_ok.2 h)
    ((emits_extendFromSlice (u16ToBeBytes len)).bind (emits_extendFromSlice v))

theorem writeUtf8String_eq (s : String) : writeUtf8String s = writeBinaryData (asBytes s) := rfl

theorem emits_writeVariableIntegerLoop (v : UInt32) :
    Emits (writeVariableIntegerLoop v) () (Varint.encode v.toNat) := by
  induction hn : v.toNat using Nat.strongRecOn generalizing v with
  | ind n ih =>
    subst hn
    have hd : (v / 128).toNat = v.toNat / 128 := UInt32.toNat_div v 128
    have hm : (v % 128).toUInt8.toNat = v.toNat % 128 := by
      rw [UInt32.toNat_toUInt8, UInt32.toNat_mod]
      exact Nat.mod_eq_of_lt (Nat.lt_trans (Nat.mod_lt _ (by decide)) (by decide))
    rw [writeVariableIntegerLoop]
    by_cases h : v.toNat < 128
    · have hz : v / 128 = 0 := UInt32.toNat.inj (by rw [hd]; simp; omega)
      have hb : (v % 128).toUInt8 = UInt8.ofNat v.toNat := by
        rw [← UInt8.ofNat_toNat (x := (v % 128).toUInt8), hm, Nat.mod_eq_of_lt h]
      rw [Varint.encode_of_lt h, if_pos hz, if_neg (by rw [hz]; decide), hb]
      exact (emits_extendFromSlice _).bind (Emits.pure ())
    · have hz : v / 128 ≠ 0 := fun h0 => by
        have := congrArg UInt32.toNat h0
        rw [hd] at this
        simp at this
        omega
      have hb : (v % 128).toUInt8 ||| 0x80 = UInt8.ofNat (v.toNat % 128 + 128) := by
        rw [or_80_of_lt _ (by omega), hm]
      have hpos : v / 128 > 0 := UInt32.pos_iff_ne_zero.2 hz
      rw [Varint.encode_of_ge (by omega), if_neg hz, if_pos hpos, hb, ← hd]
      exact (emits_extendFromSlice _).bind (ih _ (by omega) _ rfl)

theorem emits_writeVariableInteger {v : UInt32} (h : v.toNat ≤ maxRemainingLength) :
    Emits (writeVariableInteger v) () (Varint.encode v.toNat) := by
  rw [writeVariableInteger, if_neg (Nat.not_lt.2 h)]
  exact emits_writeVariableIntegerLoop v

theorem appendOnly_writeVariableInteger (v : UInt32) : AppendOnly (writeVariableInteger v) := by
  refine AppendOnly.ite (AppendOnly.throw _) fun d => ?_
  rw [emits_writeVariableIntegerLoop v d, emits_writeVariableIntegerLoop v []]
  rfl

/-! ## Readers -/

instance : Cursor Reader UInt8 where
  At c b := c.pos ≤ c.src.length ∧ c.src.drop c.pos = b
  Fits c := c.src.length ≤ maxRemainingLength
  skip c n := { c with pos := c.pos + n }
  at_skip := by
    rintro c w r ⟨_, hb⟩
    have hlen := congrArg List.length hb
    rw [List.length_drop, List.length_append] at hlen
    refine ⟨by dsimp only; omega, ?_⟩
    rw [← List.drop_drop, hb, List.drop_left]
  fits_skip h := h
  skip_zero _ := rfl
  skip_skip _ _ _ := by rw [Nat.add_assoc]

theorem at_new (src : Bytes) : At (Reader.new src) src := ⟨Nat.zero_le _, rfl⟩

theorem remaining_of_at {c : Reader} (h : At c b) : c.remaining = b.length := by
  rw [remaining, ← h.2, List.length_drop]

theorem slice_of_at {c : Reader} (h : At c (w ++ r)) :
    c.pos + w.length ≤ c.src.length ∧ slice c.src c.pos (c.pos + w.length) = .ok w := by
  obtain ⟨hpos, hb⟩ := h
  have hlen := congrArg List.length hb
  rw [List.length_drop, List.length_append] at hlen
  refine ⟨by omega, ?_⟩
  rw [slice_ok ⟨by omega, by omega⟩, hb]
  simp

theorem readExact_ok {c : Reader} (h : At c (w ++ r)) :
    readExact w.length c = .ok w (skip c w.length) := by
  have hrem := remaining_of_at h
  rw [List.length_append] at hrem
  rw [readExact, get_bind, if_neg (by omega), set_bind, (slice_of_at h).2]
  rfl

theorem reads_readExact {w : Bytes} (h : w.length = n) : Reads (readExact n) w w := by
  subst h
  exact fun c r _ hc => readExact_ok hc

theorem parses_readExact (n : Nat) : Parses (readExact n) fun v w => v = w ∧ w.length = n := by
  intro c b v c' hc hv
  by_cases h : c.remaining < n
  · rw [readExact, get_bind, if_pos h] at hv
    exact nomatch hv
  · rw [remaining_of_at hc] at h
    have hlen : (b.take n).length = n := by rw [List.length_take]; omega
    rw [← List.take_append_drop n b] at hc
    have := readExact_ok hc
    rw [hlen, hv] at this
    cases this
    exact ⟨b.take n, b.drop n, (List.take_append_drop n b).symm, by rw [hlen], rfl, hlen⟩

theorem readU8_ok {c : Reader} {v : UInt8} (h : At c (v :: r)) : readU8 c = .ok v (skip c 1) :=
  bind_of_ok (readExact_ok (w := [v]) h)

theorem reads_readU8 (v : UInt8) : Reads readU8 [v] v := fun _ _ _ hc => readU8_ok hc

theorem reads_readU16 (v : UInt16) : Reads readU16 (u16ToBeBytes v) v := by
  have hv := u16FromBeBytes_toBeBytes v
  have hlen := length_u16ToBeBytes v
  revert hv hlen
  rcases u16ToBeBytes v with _ | ⟨a, _ | ⟨b, _ | _⟩⟩ <;> rintro rfl h <;> cases h
  exact (reads_readExact rfl).map rfl

theorem reads_readU32 (v : UInt32) : Reads readU32 (u32ToBeBytes v) v := by
  have hv := u32FromBeBytes_toBeBytes v
  have hlen := length_u32ToBeBytes v
  revert hv hlen
  rcases u32ToBeBytes v with _ | ⟨a, _ | ⟨b, _ | ⟨c, _ | ⟨d, _ | _⟩⟩⟩⟩ <;> rintro rfl h <;> cases h
  exact (reads_readExact rfl).map rfl

theorem parses_readU8 : Parses readU8 fun v w => w = [v] := by
  refine (parses_readExact 1).bind ?_
  rintro _ (_ | ⟨b, _ | _⟩) ⟨rfl, h⟩ <;> cases h
  exact Parses.pure rfl

theorem parses_readU16 : Parses readU16 fun v w => w = u16ToBeBytes v := by
  refine (parses_readExact 2).bind ?_
  rintro _ (_ | ⟨a, _ | ⟨b, _ | _⟩⟩) ⟨rfl, h⟩ <;> cases h
  exact Parses.pure (u16ToBeBytes_fromBeBytes rfl).symm

theorem parses_readU32 : Parses readU32 fun v w => w = u32ToBeBytes v := by
  refine (parses_readExact 4).bind ?_
  rintro _ (_ | ⟨a, _ | ⟨b, _ | ⟨c, _ | ⟨d, _ | _⟩⟩⟩⟩) ⟨rfl, h⟩ <;> cases h
  exact Parses.pure (u32ToBeBytes_fromBeBytes rfl).symm

theorem reads_readBinaryData {v : Bytes} {len : UInt16} (h : len.toNat = v.length) :
    Reads readBinaryData (u16ToBeBytes len ++ v) v :=
  (reads_readU16 len).bind (reads_readExact h.symm)

theorem parses_readBinaryData : Parses readBinaryData fun v w => Emits (writeBinaryData v) () w := by
  refine parses_readU16.bind ?_
  rintro len _ rfl
  refine (parses_readExact len.toNat).mono ?_
  rintro v _ ⟨rfl, h⟩
  exact emits_writeBinaryData h.symm

theorem reads_readUtf8String {v : String} {len : UInt16} (h : len.toNat = (asBytes v).length) :
    Reads readUtf8String (u16ToBeBytes len ++ asBytes v) v :=
  (reads_readU16 len).bind <| (reads_readExact h.symm).map <| by
    rw [fromUtf8_asBytes]
    rfl

theorem parses_readUtf8String : Parses readUtf8String fun v w => Emits (writeUtf8String v) () w := by
  refine parses_readU16.bind ?_
  rintro len _ rfl
  refine (parses_readExact len.toNat).bind ?_
  rintro bytes _ ⟨rfl, h⟩
  refine Parses.lifted fun v hv => ?_
  have hbytes : asBytes v = bytes := by
    cases hs : fromUtf8 bytes with
    | ok s =>
      rw [hs] at hv
      cases hv
      exact fromUtf8_eq_ok.1 hs
    | error e =>
      rw [hs] at hv
      exact nomatch hv
  rw [List.append_nil, ← hbytes, writeUtf8String_eq]
  exact emits_writeBinaryData (by rw [hbytes, h])

/-! ## Variable byte integers -/

/-- One step of the loop adds the next group of seven bits, without overflow. -/
theorem readVariableIntegerLoop_step {multiplier value : UInt32} (b : UInt8)
    (hmul : multiplier.toNat * 128 ≤ 2 ^ 28) (hval : value.toNat < multiplier.toNat) :
    ∃ product value',
      u32Mul (b &&& 0x7f).toUInt32 multiplier = .ok product ∧
      u32Add value product = .ok value' ∧
      value'.toNat = value.toNat + b.toNat % 128 * multiplier.toNat ∧
      value'.toNat < multiplier.toNat * 128 := by
  have hb : (b &&& 0x7f).toUInt32.toNat = b.toNat % 128 := by
    rw [UInt8.toNat_toUInt32, toNat_and_7f]
  have hprod : b.toNat % 128 * multiplier.toNat + multiplier.toNat ≤ multiplier.toNat * 128 := by
    calc b.toNat % 128 * multiplier.toNat + multiplier.toNat
        = (b.toNat % 128 + 1) * multiplier.toNat := by rw [Nat.add_mul, Nat.one_mul]
      _ ≤ 128 * multiplier.toNat := Nat.mul_le_mul_right _ (Nat.mod_lt _ (by decide))
      _ = multiplier.toNat * 128 := Nat.mul_comm ..
  have hmulNat : ((b &&& 0x7f).toUInt32 * multiplier).toNat = b.toNat % 128 * multiplier.toNat := by
    rw [UInt32.toNat_mul, hb, Nat.mod_eq_of_lt (by omega)]
  refine ⟨_, _, u32Mul_of_lt (by rw [hb]; omega), u32Add_of_lt (by rw [hmulNat]; omega), ?_, ?_⟩
  all_goals rw [UInt32.toNat_add, hmulNat, Nat.mod_eq_of_lt (by omega)]
  omega

theorem readVariableIntegerLoop_multiplier {multiplier : UInt32} {n : Nat}
    (hmul : multiplier.toNat * 128 ^ (n + 1) ≤ 2 ^ 28) :
    u32Mul multiplier 128 = .ok (multiplier * 128) ∧
      (multiplier * 128).toNat = multiplier.toNat * 128 ∧
      multiplier.toNat * 128 ≤ 2 ^ 28 ∧
      (multiplier * 128).toNat * 128 ^ n ≤ 2 ^ 28 := by
  have hle : multiplier.toNat * 128 ≤ 2 ^ 28 := by
    refine Nat.le_trans (Nat.mul_le_mul_left _ ?_) hmul
    exact Nat.le_self_pow (Nat.succ_ne_zero n) 128
  have hnat : (multiplier * 128).toNat = multiplier.toNat * 128 := by
    rw [UInt32.toNat_mul]
    exact Nat.mod_eq_of_lt (Nat.lt_of_le_of_lt hle (by decide))
  refine ⟨u32Mul_of_lt (Nat.lt_of_le_of_lt hle (by decide)), hnat, hle, ?_⟩
  rwa [hnat, Nat.mul_assoc, ← Nat.pow_succ']

/-- The loop reads a numeral whose length is the one it validates in the end. -/
theorem readVariableIntegerLoop_ok {w : Bytes} (hw : Varint.Terminated w) (hn : w.length ≤ n)
    (hmul : multiplier.toNat * 128 ^ n ≤ 2 ^ 28) (hval : value.toNat < multiplier.toNat)
    (hv : v.toNat = value.toNat + multiplier.toNat * Varint.value w)
    (hlen : (Varint.encode v.toNat).length + 1 = len + w.length) (hc : At c (w ++ r)) :
    readVariableIntegerLoop multiplier value len n c = .ok v (skip c w.length) := by
  induction n generalizing w multiplier value len c with
  | zero =>
    rw [List.length_eq_zero_iff.1 (Nat.le_zero.1 hn)] at hw
    exact hw.elim
  | succ n ih =>
    obtain ⟨hm, hm', hle, hmul'⟩ := readVariableIntegerLoop_multiplier hmul
    obtain _ | ⟨b, bs⟩ := w
    · exact hw.elim
    obtain ⟨product, value', hp, ha, hnat, hlt⟩ := readVariableIntegerLoop_step b hle hval
    rw [Varint.value, Nat.mul_add] at hv
    rw [List.length_cons] at hlen hn
    rw [readVariableIntegerLoop, bind_of_ok (readU8_ok hc), hp, Exec.call_ok, ha, Exec.call_ok]
    obtain _ | ⟨d, ds⟩ := bs
    · have hb : b.toNat < 128 := hw
      have hv' : value' = v := UInt32.toNat.inj (by
        rw [hnat, hv, Varint.value, Nat.mul_comm]; rfl)
      have hvalid : validateVariableIntegerEncoding v.toNat len = .ok () :=
        validateVariableIntegerEncoding_eq_ok.2 (by simpa using hlen)
      rw [if_pos ((and_80_eq_zero_iff b).2 hb), hv', hvalid, Exec.call_ok]
      rfl
    · have hb : ¬b.toNat < 128 := Nat.not_lt.2 hw.1
      rw [if_neg (mt (and_80_eq_zero_iff b).1 hb), hm, Exec.call_ok]
      have hrest : At (skip c 1) (d :: ds ++ r) := at_skip (w := [b]) hc
      have hvalue : v.toNat =
          value'.toNat + (multiplier * 128).toNat * Varint.value (d :: ds) := by
        rw [hv, hm', hnat, Nat.mul_comm multiplier.toNat, Nat.mul_assoc, Nat.add_assoc]
      rw [ih hw.2 (by omega) hmul' (by omega) hvalue (by omega) hrest, skip_skip, Nat.add_comm 1,
        List.length_cons (a := b)]

/-- What the loop accepts is such a numeral. -/
theorem parses_readVariableIntegerLoop
    (hmul : multiplier.toNat * 128 ^ n ≤ 2 ^ 28) (hval : value.toNat < multiplier.toNat) :
    Parses (readVariableIntegerLoop multiplier value len n) fun v w =>
      Varint.Terminated w ∧ w.length ≤ n ∧
      v.toNat = value.toNat + multiplier.toNat * Varint.value w ∧
      (Varint.encode v.toNat).length + 1 = len + w.length := by
  induction n generalizing multiplier value len with
  | zero => exact Parses.throw _
  | succ n ih =>
    obtain ⟨hm, hm', hle, hmul'⟩ := readVariableIntegerLoop_multiplier hmul
    rw [readVariableIntegerLoop]
    refine parses_readU8.bind ?_
    rintro b _ rfl
    obtain ⟨product, value', hp, ha, hnat, hlt⟩ := readVariableIntegerLoop_step b hle hval
    refine Parses.lifted_bind fun p' hp' => ?_
    cases hp.symm.trans hp'
    refine Parses.lifted_bind fun v' hv' => ?_
    cases ha.symm.trans hv'
    refine Parses.ite (fun hb => ?_) fun hb => ?_
    · rw [and_80_eq_zero_iff] at hb
      refine Parses.lifted_bind fun _ hok => Parses.pure ⟨hb, by simp, ?_, ?_⟩
      · rw [hnat]
        simp [Varint.value, Nat.mul_comm]
      · rw [validateVariableIntegerEncoding_eq_ok.1 hok]
        simp
    · rw [and_80_eq_zero_iff] at hb
      refine Parses.lifted_bind fun m hm'' => ?_
      cases hm.symm.trans hm''
      refine (ih hmul' (by omega)).mono ?_
      rintro v w ⟨hw, hn, hv, hlen⟩
      refine ⟨Varint.Terminated.cons (Nat.not_lt.1 hb) hw, by simpa using hn, ?_, ?_⟩
      · rw [hv, hm', hnat, List.singleton_append, Varint.value, Nat.mul_add,
          Nat.mul_comm multiplier.toNat (b.toNat % 128), ← Nat.mul_assoc, Nat.add_assoc]
      · rw [hlen, List.singleton_append, List.length_cons]
        omega

theorem readVariableInteger_ok {v : UInt32} (h : v.toNat ≤ maxRemainingLength)
    (hc : At c (Varint.encode v.toNat ++ r)) :
    readVariableInteger c = .ok v (skip c (Varint.encode v.toNat).length) :=
  readVariableIntegerLoop_ok (Varint.terminated_encode _) (length_encode_le_four h)
    (by decide) (by decide) (by rw [Varint.value_encode]; simp) (by omega) hc

theorem reads_readVariableInteger {v : UInt32} (h : v.toNat ≤ maxRemainingLength) :
    Reads readVariableInteger (Varint.encode v.toNat) v :=
  fun _ _ _ => readVariableInteger_ok h

theorem parses_readVariableInteger :
    Parses readVariableInteger fun v w =>
      v.toNat ≤ maxRemainingLength ∧ w = Varint.encode v.toNat := by
  refine (parses_readVariableIntegerLoop (by decide) (by decide)).mono ?_
  rintro v w ⟨hw, hn, hv, hlen⟩
  have hvalue : v.toNat = Varint.value w := by simpa using hv
  rw [hvalue] at hlen ⊢
  refine ⟨le_maxRemainingLength_of_lt ?_, Varint.eq_encode hw (by omega)⟩
  exact Nat.lt_of_lt_of_le (Varint.value_lt w) (Nat.pow_le_pow_right (by decide) hn)

/-! ## Fields -/

theorem canonical_u8 : Canonical writeU8 readU8 where
  appendOnly := appendOnly_writeU8
  reads h := by
    obtain ⟨-, rfl⟩ := h.inj (emits_extendFromSlice _)
    exact reads_readU8 _
  parses := parses_readU8.mono fun _ _ h => h ▸ emits_extendFromSlice _

theorem canonical_u16 : Canonical writeU16 readU16 where
  appendOnly := appendOnly_writeU16
  reads h := by
    obtain ⟨-, rfl⟩ := h.inj (emits_extendFromSlice _)
    exact reads_readU16 _
  parses := parses_readU16.mono fun _ _ h => h ▸ emits_extendFromSlice _

theorem canonical_u32 : Canonical writeU32 readU32 where
  appendOnly := appendOnly_writeU32
  reads h := by
    obtain ⟨-, rfl⟩ := h.inj (emits_extendFromSlice _)
    exact reads_readU32 _
  parses := parses_readU32.mono fun _ _ h => h ▸ emits_extendFromSlice _

/-- Binary data is written only when its length fits the length prefix. -/
theorem writeBinaryData_emits {v : Bytes} (h : Emits (writeBinaryData v) () w) :
    ∃ len : UInt16, len.toNat = v.length ∧ w = u16ToBeBytes len ++ v := by
  obtain ⟨len, _, hlen, -⟩ := bind_eq_ok.1 (h [])
  have hv := lenAsU16_eq_ok.1 (lifted_eq_ok.1 hlen).1
  exact ⟨len, hv, (h.inj (emits_writeBinaryData hv)).2⟩

theorem canonical_binaryData : Canonical writeBinaryData readBinaryData where
  appendOnly := appendOnly_writeBinaryData
  reads h := by
    obtain ⟨len, hlen, rfl⟩ := writeBinaryData_emits h
    exact reads_readBinaryData hlen
  parses := parses_readBinaryData

theorem canonical_utf8String : Canonical writeUtf8String readUtf8String where
  appendOnly := appendOnly_writeUtf8String
  reads h := by
    obtain ⟨len, hlen, rfl⟩ := writeBinaryData_emits h
    exact reads_readUtf8String hlen
  parses := parses_readUtf8String

theorem canonical_variableInteger : Canonical writeVariableInteger readVariableInteger where
  appendOnly := appendOnly_writeVariableInteger
  reads {v w} h := by
    have hv : v.toNat ≤ maxRemainingLength := by
      refine Nat.not_lt.1 fun hlt => ?_
      have := h []
      rw [writeVariableInteger, if_pos hlt] at this
      exact nomatch this
    obtain ⟨-, rfl⟩ := h.inj (emits_writeVariableInteger hv)
    exact reads_readVariableInteger hv
  parses := parses_readVariableInteger.mono fun _ _ h => h.2 ▸ emits_writeVariableInteger h.1

/-! ## Repetition -/

/-- The reader of a repeated item reads the items one after the other. -/
theorem readsAll_whileRemaining {item : Exec Reader α} {vs : List α} {ws : List Bytes}
    (h : List.Forall₂ (fun v w => Reads item w v ∧ w ≠ []) vs ws)
    (hfuel : ws.flatten.length ≤ fuel) : ReadsAll (whileRemaining item fuel) ws.flatten vs := by
  induction h generalizing fuel with
  | nil =>
    cases fuel <;> exact ReadsAll.get_bind fun c hc => by
      rw [if_neg (by rw [remaining_of_at hc]; simp)]
      exact (Reads.pure []).all
  | @cons v w vs ws hw _ ih =>
    have hpos := List.length_pos_iff.2 hw.2
    rw [List.flatten_cons, List.length_append] at hfuel
    obtain _ | fuel := fuel
    · omega
    · refine ReadsAll.get_bind fun c hc => ?_
      rw [remaining_of_at hc, List.flatten_cons, List.length_append, if_pos (by omega)]
      exact hw.1.bind_all ((ih (by omega)).map rfl)

/-- What it accepts is a sequence of items, up to the end. -/
theorem whileRemaining_ok {item : Exec Reader α} {Q : α → Bytes → Prop} (h : Parses item Q)
    (hc : At c b) (hv : whileRemaining item fuel c = .ok vs c') :
    c' = skip c b.length ∧ ∃ ws : List Bytes, b = ws.flatten ∧ List.Forall₂ Q vs ws := by
  induction fuel generalizing c b vs c' with
  | zero =>
    rw [whileRemaining, get_bind, remaining_of_at hc] at hv
    split at hv
    · exact nomatch hv
    · cases hv
      obtain rfl := List.length_eq_zero_iff.1 (Nat.eq_zero_of_not_pos ‹_›)
      exact ⟨rfl, [], rfl, .nil⟩
  | succ fuel ih =>
    rw [whileRemaining, get_bind, remaining_of_at hc] at hv
    split at hv
    · obtain ⟨v, c₁, hitem, hv⟩ := bind_eq_ok.1 hv
      obtain ⟨vs', c₂, hrest, hv⟩ := bind_eq_ok.1 hv
      cases hv
      obtain ⟨w, r, rfl, rfl, hQ⟩ := h c b v c₁ hc hitem
      obtain ⟨rfl, ws, rfl, hws⟩ := ih (at_skip hc) hrest
      refine ⟨?_, w :: ws, rfl, .cons hQ hws⟩
      rw [skip_skip, List.length_append]
    · cases hv
      obtain rfl := List.length_eq_zero_iff.1 (Nat.eq_zero_of_not_pos ‹_›)
      exact ⟨rfl, [], rfl, .nil⟩

theorem parses_whileRemaining {item : Exec Reader α} {Q : α → Bytes → Prop} (h : Parses item Q) :
    Parses (whileRemaining item fuel) fun vs w =>
      ∃ ws : List Bytes, w = ws.flatten ∧ List.Forall₂ Q vs ws := by
  intro c b vs c' hc hv
  obtain ⟨rfl, hws⟩ := whileRemaining_ok h hc hv
  exact ⟨b, [], (List.append_nil b).symm, rfl, hws⟩

end RsNetty.Mqtt

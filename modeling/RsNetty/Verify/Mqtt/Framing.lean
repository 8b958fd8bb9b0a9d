import RsNetty.Verify.Mqtt.Forward
import RsNetty.Theory.Segmentation

/-!
# MQTT framing

`MqttCodec.decode` on a buffer: what it does is decided by the first four bytes behind the fixed
header and, once the packet is complete, by the packet alone. From this the two round trips and
the independence of how the stream is cut.
-/

namespace RsNetty.Mqtt
open EStateM Reader Cursor Segmentation

/-! ## Remaining Length -/

/-- One step of the loop adds the next group of seven bits, without overflow. -/
theorem decodeRemainingLengthLoop_cons (b : UInt8) (hmul : multiplier * 128 ≤ 2 ^ 28)
    (hval : value < multiplier) (index : Nat) (rest : List UInt8) :
    decodeRemainingLengthLoop multiplier value index (b :: rest) =
      if b.toNat < 128 then do
        validateVariableIntegerEncoding (value + b.toNat % 128 * multiplier) (index + 1)
        return some (value + b.toNat % 128 * multiplier, index + 1)
      else
        decodeRemainingLengthLoop (multiplier * 128) (value + b.toNat % 128 * multiplier)
          (index + 1) rest := by
  have hprod : b.toNat % 128 * multiplier + multiplier ≤ multiplier * 128 := by
    calc b.toNat % 128 * multiplier + multiplier
        = (b.toNat % 128 + 1) * multiplier := by rw [Nat.add_mul, Nat.one_mul]
      _ ≤ 128 * multiplier := Nat.mul_le_mul_right _ (Nat.mod_lt _ (by decide))
      _ = multiplier * 128 := Nat.mul_comm ..
  have hmax : 2 ^ 28 ≤ usizeMax := by decide
  rw [decodeRemainingLengthLoop, toNat_and_7f, usizeMul_of_le (by omega), Except.ok_bind,
    usizeAdd_of_le (by omega), Except.ok_bind, usizeMul_of_le (by omega), Except.ok_bind]
  simp only [and_80_eq_zero_iff]

theorem add_group_lt {multiplier value : Nat} (b : UInt8) (hval : value < multiplier) :
    value + b.toNat % 128 * multiplier < multiplier * 128 := by
  calc value + b.toNat % 128 * multiplier
      < multiplier + b.toNat % 128 * multiplier := Nat.add_lt_add_right hval _
    _ = (b.toNat % 128 + 1) * multiplier := by rw [Nat.add_mul, Nat.one_mul, Nat.add_comm]
    _ ≤ 128 * multiplier := Nat.mul_le_mul_right _ (Nat.mod_lt _ (by decide))
    _ = multiplier * 128 := Nat.mul_comm ..

theorem le_of_mul_pow {multiplier n : Nat} (h : multiplier * 128 ^ (n + 1) ≤ 2 ^ 28) :
    multiplier * 128 ≤ 2 ^ 28 ∧ multiplier * 128 * 128 ^ n ≤ 2 ^ 28 := by
  rw [Nat.pow_succ', ← Nat.mul_assoc] at h
  exact ⟨Nat.le_trans (Nat.le_mul_of_pos_right _ (Nat.pow_pos (by decide))) h, h⟩

theorem decodeRemainingLengthLoop_terminated {w : List UInt8} (hw : Varint.Terminated w)
    (hmul : multiplier * 128 ^ w.length ≤ 2 ^ 28) (hval : value < multiplier) (index : Nat)
    (rest : List UInt8) :
    decodeRemainingLengthLoop multiplier value index (w ++ rest) = do
      validateVariableIntegerEncoding (value + multiplier * Varint.value w) (index + w.length)
      return some (value + multiplier * Varint.value w, index + w.length) := by
  induction w generalizing multiplier value index with
  | nil => exact hw.elim
  | cons b bs ih =>
    obtain ⟨hle, hmul⟩ := le_of_mul_pow hmul
    rw [List.cons_append, decodeRemainingLengthLoop_cons b hle hval]
    have hvalue : value + multiplier * Varint.value (b :: bs) =
        value + b.toNat % 128 * multiplier + multiplier * 128 * Varint.value bs := by
      rw [Varint.value, Nat.mul_add, Nat.mul_comm multiplier (b.toNat % 128), ← Nat.mul_assoc,
        Nat.add_assoc]
    rw [hvalue]
    obtain _ | ⟨c, cs⟩ := bs
    · have hb : b.toNat < 128 := hw
      rw [if_pos hb]
      rfl
    · rw [if_neg (Nat.not_lt.2 hw.1), ih hw.2 hmul (add_group_lt b hval), Nat.add_assoc index,
        Nat.add_comm 1, List.length_cons (a := b)]

theorem decodeRemainingLengthLoop_unterminated {bs : List UInt8} (hbs : ∀ b ∈ bs, 128 ≤ b.toNat)
    (hmul : multiplier * 128 ^ bs.length ≤ 2 ^ 28) (hval : value < multiplier) (index : Nat) :
    decodeRemainingLengthLoop multiplier value index bs = .ok none := by
  induction bs generalizing multiplier value index with
  | nil => rfl
  | cons b bs ih =>
    obtain ⟨hle, hmul⟩ := le_of_mul_pow hmul
    obtain ⟨hb, hbs⟩ := List.forall_mem_cons.1 hbs
    rw [decodeRemainingLengthLoop_cons b hle hval, if_neg (Nat.not_lt.2 hb)]
    exact ih hbs hmul (add_group_lt b hval) (index + 1)

theorem pow_length_le {w : List UInt8} (h : w.length ≤ 4) : 1 * 128 ^ w.length ≤ 2 ^ 28 := by
  rw [Nat.one_mul]
  exact Nat.le_trans (Nat.pow_le_pow_right (by decide) h) (by decide)

/-- The field is complete: it is read, and refused when it is padded. -/
theorem decodeRemainingLengthPrefix_terminated {w : Bytes} (hw : Varint.Terminated w)
    (hlen : w.length ≤ 4) (r : Bytes) :
    decodeRemainingLengthPrefix (w ++ r) =
      if (Varint.encode (Varint.value w)).length = w.length then
        .ok (some (Varint.value w, w.length))
      else .error (.decode "MQTT variable byte integer is not minimally encoded") := by
  have htake : (w ++ r).take 4 = w ++ r.take (4 - w.length) := by
    rw [List.take_append, List.take_of_length_le hlen]
  rw [decodeRemainingLengthPrefix, htake,
    decodeRemainingLengthLoop_terminated hw (pow_length_le hlen) Nat.one_pos, Nat.zero_add,
    Nat.zero_add, Nat.one_mul, validateVariableIntegerEncoding, remainingLengthLen_eq, ite_not]
  split <;> rfl

theorem decodeRemainingLengthPrefix_encode (h : n ≤ maxRemainingLength) (r : Bytes) :
    decodeRemainingLengthPrefix (Varint.encode n ++ r) =
      .ok (some (n, (Varint.encode n).length)) := by
  rw [decodeRemainingLengthPrefix_terminated (Varint.terminated_encode n)
    (length_encode_le_four h), Varint.value_encode, if_pos rfl]

theorem decodeRemainingLengthPrefix_unterminated {src : Bytes}
    (hbs : ∀ b ∈ src.take 4, 128 ≤ b.toNat) :
    decodeRemainingLengthPrefix src =
      if src.length ≥ 4 then .error (.decode "malformed MQTT Remaining Length") else .ok none := by
  rw [decodeRemainingLengthPrefix, decodeRemainingLengthLoop_unterminated hbs
    (pow_length_le (by simp)) Nat.one_pos]
  rfl

/-- Within four bytes the field ends or it does not. -/
theorem numeral_or (src : Bytes) :
    (∃ w r, src = w ++ r ∧ Varint.Terminated w ∧ w.length ≤ 4) ∨
      ∀ b ∈ src.take 4, 128 ≤ b.toNat := by
  rcases Varint.terminated_or (src.take 4) with ⟨w, r, hsplit, hw⟩ | hbs
  · have hlen := congrArg List.length hsplit
    rw [List.length_take, List.length_append] at hlen
    refine .inl ⟨w, r ++ src.drop 4, ?_, hw, by omega⟩
    rw [← List.append_assoc, ← hsplit, List.take_append_drop]
  · exact .inr hbs

/-- What is accepted is the shortest numeral of the length. -/
theorem decodeRemainingLengthPrefix_some {src : Bytes}
    (h : decodeRemainingLengthPrefix src = .ok (some (n, len))) :
    n ≤ maxRemainingLength ∧ len = (Varint.encode n).length ∧
      ∃ r, src = Varint.encode n ++ r := by
  rcases numeral_or src with ⟨w, r, rfl, hw, hlen⟩ | hbs
  · rw [decodeRemainingLengthPrefix_terminated hw hlen] at h
    split at h
    · cases h
      have hlt := Nat.lt_of_lt_of_le (Varint.value_lt w) (Nat.pow_le_pow_right (by decide) hlen)
      rw [← Varint.eq_encode hw ‹_›]
      exact ⟨le_maxRemainingLength_of_lt hlt, rfl, r, rfl⟩
    · cases h
  · rw [decodeRemainingLengthPrefix_unterminated hbs] at h
    split at h <;> cases h

/-! ## One call -/

/-- The decoding of a complete packet behind its fixed header. -/
def decodeBody (fixedHeader : UInt8) (body : Bytes) : Result MqttPacket := do
  let (decoded, reader) ←
    (decodePacket (fixedHeader >>> 4) (fixedHeader &&& 0x0f)).runOn (Reader.new body)
  failIf (reader.remaining ≠ 0) (.decode s!"MQTT packet has {reader.remaining} trailing bytes")
  return decoded

/-- The bytes of a packet. -/
def wire (fixedHeader : UInt8) (body : Bytes) : Bytes :=
  fixedHeader :: (Varint.encode body.length ++ body)

namespace MqttCodec

theorem decode_short {codec : MqttCodec} {src : Bytes} (h : src.length < 2) :
    codec.decode src = .ok none src := by
  rw [decode, get_bind, if_pos h]
  rfl

theorem decode_error {codec : MqttCodec} {h : UInt8} {rest : Bytes} (hne : rest ≠ [])
    (hlead : decodeRemainingLengthPrefix rest = .error e) :
    codec.decode (h :: rest) = .error e (h :: rest) := by
  have hlen := List.length_pos_iff.2 hne
  rw [decode, get_bind, if_neg (by rw [List.length_cons]; omega), index_ok rfl, Exec.call_ok,
    sliceFrom_ok (by simp), Exec.call_ok, List.drop_one, List.tail_cons, hlead]
  rfl

theorem decode_none {codec : MqttCodec} {h : UInt8} {rest : Bytes}
    (hlead : decodeRemainingLengthPrefix rest = .ok none) :
    codec.decode (h :: rest) = .ok none (h :: rest) := by
  by_cases hlen : (h :: rest).length < 2
  · exact decode_short hlen
  · rw [decode, get_bind, if_neg hlen, index_ok rfl, Exec.call_ok, sliceFrom_ok (by simp),
      Exec.call_ok, List.drop_one, List.tail_cons, hlead]
    rfl

/-- Behind a complete header field the codec checks the size, waits for the packet, and decodes. -/
theorem decode_header {codec : MqttCodec} {h : UInt8} {n : Nat} (hn : n ≤ maxRemainingLength)
    (rest : Bytes) :
    codec.decode (h :: (Varint.encode n ++ rest)) =
      if n > codec.maxPacketSize then
        .error (.err (.frameTooLarge n codec.maxPacketSize)) (h :: (Varint.encode n ++ rest))
      else if rest.length < n then .ok none (h :: (Varint.encode n ++ rest))
      else match decodeBody h (rest.take n) with
        | .ok p => .ok (some p) (rest.drop n)
        | .error e => .error e (rest.drop n) := by
  have hpos := Varint.length_encode_pos n
  have hfour := length_encode_le_four hn
  have hmax : 1 + (Varint.encode n).length + n ≤ usizeMax := by
    rw [maxRemainingLength] at hn
    rw [usizeMax]
    omega
  rw [decode, get_bind, if_neg (by rw [List.length_cons, List.length_append]; omega), index_ok rfl,
    Exec.call_ok, sliceFrom_ok (by simp), Exec.call_ok, List.drop_one, List.tail_cons,
    decodeRemainingLengthPrefix_encode hn, Exec.call_ok]
  by_cases htoo : n > codec.maxPacketSize
  · simp only [failIf, if_pos htoo]
    rfl
  · simp only [failIf_eq_ok.2 htoo, if_neg htoo, Exec.call_ok, checkedAdd_of_le hmax, okOr]
    by_cases hshort : rest.length < n
    · rw [if_pos (by rw [List.length_cons, List.length_append]; omega), if_pos hshort]
      rfl
    · have hlen : (h :: Varint.encode n).length = 1 + (Varint.encode n).length := by
        rw [List.length_cons, Nat.add_comm]
      have htake : (h :: (Varint.encode n ++ rest)).take (1 + (Varint.encode n).length + n) =
          (h :: Varint.encode n) ++ rest.take n := by
        rw [← List.cons_append, ← hlen, List.take_length_add_append]
      have hdrop : (h :: (Varint.encode n ++ rest)).drop (1 + (Varint.encode n).length + n) =
          rest.drop n := by
        rw [← List.cons_append, ← hlen, List.drop_length_add_append]
      rw [if_neg (by rw [List.length_cons, List.length_append]; omega), if_neg hshort,
        bind_of_ok (splitTo_ok (by rw [List.length_cons, List.length_append]; omega)), htake, hdrop,
        ← hlen, sliceFrom_ok (by simp), Exec.call_ok, List.drop_left, decodeBody]
      cases hrun : (decodePacket (h >>> 4) (h &&& 0x0f)).runOn (Reader.new (rest.take n)) with
      | error e => rfl
      | ok r =>
        obtain ⟨p, reader⟩ := r
        rw [Exec.call_ok, Except.ok_bind]
        dsimp only
        generalize failIf (reader.remaining ≠ 0) _ = check
        cases check <;> rfl

/-- What a call does: it leaves an incomplete packet alone, refuses a header whatever follows, or
takes a complete packet. -/
theorem decode_cases (codec : MqttCodec) (src : Bytes) :
    codec.decode src = .ok none src ∨
    (∃ e, e ≠ .panic ∧ ∀ r, codec.decode (src ++ r) = .error e (src ++ r)) ∨
    ∃ h body rest, body.length ≤ maxRemainingLength ∧ body.length ≤ codec.maxPacketSize ∧
      src = wire h body ++ rest := by
  obtain _ | ⟨h, rest⟩ := src
  · exact .inl (decode_short (by simp))
  by_cases hne : rest = []
  · subst hne
    exact .inl (decode_short (by simp))
  rcases numeral_or rest with ⟨w, rest', rfl, hw, hlen⟩ | hbs
  · by_cases hmin : (Varint.encode (Varint.value w)).length = w.length
    · have hn : Varint.value w ≤ maxRemainingLength := le_maxRemainingLength_of_lt <|
        Nat.lt_of_lt_of_le (Varint.value_lt w) (Nat.pow_le_pow_right (by decide) hlen)
      have hw := Varint.eq_encode hw hmin
      generalize Varint.value w = n at hw hn
      subst hw
      by_cases htoo : n > codec.maxPacketSize
      · refine .inr (.inl ⟨.err (.frameTooLarge n codec.maxPacketSize), by simp, fun r => ?_⟩)
        rw [List.cons_append, List.append_assoc, decode_header hn, if_pos htoo]
      · by_cases hshort : rest'.length < n
        · rw [decode_header hn, if_neg htoo, if_pos hshort]
          exact .inl rfl
        · have htake : (rest'.take n).length = n := by
            rw [List.length_take]
            omega
          refine .inr (.inr ⟨h, rest'.take n, rest'.drop n, by omega, by omega, ?_⟩)
          rw [wire, htake, List.cons_append, List.append_assoc, List.take_append_drop]
    · refine .inr (.inl ⟨.decode "MQTT variable byte integer is not minimally encoded", by simp,
        fun r => ?_⟩)
      rw [List.cons_append]
      refine decode_error (fun h0 => hne (List.append_eq_nil_iff.1 h0).1) ?_
      rw [List.append_assoc, decodeRemainingLengthPrefix_terminated hw hlen, if_neg hmin]
  · have hlead := decodeRemainingLengthPrefix_unterminated hbs
    by_cases hfour : rest.length ≥ 4
    · refine .inr (.inl ⟨.decode "malformed MQTT Remaining Length", by simp, fun r => ?_⟩)
      rw [List.cons_append]
      refine decode_error (fun h0 => hne (List.append_eq_nil_iff.1 h0).1) ?_
      rw [decodeRemainingLengthPrefix_unterminated, if_pos (by rw [List.length_append]; omega)]
      rwa [List.take_append_of_le_length hfour]
    · rw [if_neg hfour] at hlead
      exact .inl (decode_none hlead)

theorem decode_of_wire {codec : MqttCodec} (hlen : body.length ≤ maxRemainingLength)
    (hmax : body.length ≤ codec.maxPacketSize) (h : UInt8) (r : Bytes) :
    codec.decode (wire h body ++ r) =
      match decodeBody h body with
      | .ok p => .ok (some p) r
      | .error e => .error e r := by
  rw [wire, List.cons_append, List.append_assoc, decode_header hlen, if_neg (by omega),
    if_neg (by rw [List.length_append]; omega), List.take_left, List.drop_left]

/-- A packet was decoded from bytes of its own. -/
theorem decode_eq_some {codec : MqttCodec} {src rest : BytesMut}
    (h : codec.decode src = .ok (some p) rest) :
    ∃ b body, body.length ≤ maxRemainingLength ∧ body.length ≤ codec.maxPacketSize ∧
      src = wire b body ++ rest ∧ decodeBody b body = .ok p := by
  rcases decode_cases codec src with hnone | ⟨e, -, herror⟩ | ⟨b, body, rest', hlen, hmax, rfl⟩
  · cases h.symm.trans hnone
  · have := herror []
    rw [List.append_nil] at this
    cases h.symm.trans this
  · rw [decode_of_wire hlen hmax] at h
    cases hbody : decodeBody b body with
    | error e =>
      rw [hbody] at h
      cases h
    | ok q =>
      rw [hbody] at h
      cases h
      exact ⟨b, body, hlen, hmax, rfl, hbody⟩

/-- An error found in the header leaves the packet where it is; one found in the body does not. -/
theorem decode_eq_error {codec : MqttCodec} {src rest : BytesMut}
    (h : codec.decode src = .error e rest) :
    (e ≠ .panic ∧ rest = src) ∨
      ∃ b body, body.length ≤ maxRemainingLength ∧ body.length ≤ codec.maxPacketSize ∧
        src = wire b body ++ rest ∧ decodeBody b body = .error e := by
  rcases decode_cases codec src with hnone | ⟨e', he', herror⟩ | ⟨b, body, rest', hlen, hmax, rfl⟩
  · cases h.symm.trans hnone
  · have := herror []
    rw [List.append_nil] at this
    cases h.symm.trans this
    exact .inl ⟨he', rfl⟩
  · rw [decode_of_wire hlen hmax] at h
    cases hbody : decodeBody b body with
    | ok p =>
      rw [hbody] at h
      cases h
    | error e' =>
      rw [hbody] at h
      cases h
      exact .inr ⟨b, body, hlen, hmax, rfl, hbody⟩

theorem decodeBody_eq_ok (h : decodeBody b body = .ok p) :
    ∃ reader, decodePacket (b >>> 4) (b &&& 0x0f) (Reader.new body) = .ok p reader ∧
      reader.remaining = 0 := by
  obtain ⟨⟨p', reader⟩, hrun, hrest⟩ := Except.bind_eq_ok.1 h
  obtain ⟨_, hfail, hpure⟩ := Except.bind_eq_ok.1 hrest
  cases hpure
  exact ⟨reader, runOn_eq_ok.1 hrun, not_not.1 (failIf_eq_ok.1 hfail)⟩

/-- The nibbles of the fixed header. -/
theorem fixedHeader_nibbles {k fl : UInt8} (hk : k < 16) (hfl : fl < 16) :
    ((k <<< 4) ||| fl) >>> 4 = k ∧ ((k <<< 4) ||| fl) &&& 0x0f = fl := by
  have hall : ∀ k fl : Fin 16,
      ((UInt8.ofNat k <<< 4) ||| UInt8.ofNat fl) >>> 4 = UInt8.ofNat k ∧
        ((UInt8.ofNat k <<< 4) ||| UInt8.ofNat fl) &&& 0x0f = UInt8.ofNat fl := by
    decide
  have := hall ⟨k.toNat, hk⟩ ⟨fl.toNat, hfl⟩
  simpa using this

theorem decodeBody_encodePacket {p : MqttPacket} (h : encodePacket p = .ok (k, fl, body))
    (hlen : body.length ≤ maxRemainingLength) : decodeBody ((k <<< 4) ||| fl) body = .ok p := by
  obtain ⟨hk, hfl, hread⟩ := decodePacket_encodePacket h
  obtain ⟨hhigh, hlow⟩ := fixedHeader_nibbles hk hfl
  have hrun := hread (Reader.new body) hlen (at_new body)
  have hrem : (skip (Reader.new body) body.length).remaining = 0 :=
    remaining_of_at (at_skip (r := []) (by rw [List.append_nil]; exact at_new body))
  rw [decodeBody, hhigh, hlow, runOn_of_ok hrun, Except.ok_bind]
  dsimp only
  rw [failIf_eq_ok.2 (not_not.2 hrem)]
  rfl

theorem encode_of_ok {codec : MqttCodec} {p : MqttPacket}
    (h : encodePacket p = .ok (k, fl, body)) (hmax : body.length ≤ codec.maxPacketSize)
    (hlen : body.length ≤ maxRemainingLength) (d : Bytes) :
    codec.encode p d = .ok () (d ++ wire ((k <<< 4) ||| fl) body) := by
  have hnat : (UInt32.ofNat body.length).toNat = body.length :=
    UInt32.toNat_ofNat_of_lt' (Nat.lt_of_le_of_lt hlen (by decide))
  have hnumeral := emits_writeVariableInteger (v := UInt32.ofNat body.length) (by rwa [hnat])
  rw [hnat] at hnumeral
  rw [encode, h, Exec.call_ok]
  dsimp only
  rw [failIf_eq_ok.2 (by omega), Exec.call_ok]
  exact (emits_extendFromSlice [(k <<< 4) ||| fl]).bind
    (hnumeral.bind (emits_extendFromSlice body)) d

theorem encode_eq_ok {codec : MqttCodec} (h : codec.encode p d = .ok () d') :
    ∃ k fl body, encodePacket p = .ok (k, fl, body) ∧ body.length ≤ codec.maxPacketSize := by
  obtain ⟨⟨k, fl, body⟩, hpacket, h⟩ := Exec.call_eq_ok.1 h
  obtain ⟨_, hmax, -⟩ := Exec.call_eq_ok.1 h
  exact ⟨k, fl, body, hpacket, Nat.not_lt.1 (failIf_eq_ok.1 hmax)⟩

/-! ## Round trips -/

/-- Decoding undoes encoding, whatever the buffer held before and whatever follows. -/
theorem decode_encode_append {codec : MqttCodec} (hcodec : codec.maxPacketSize ≤ maxRemainingLength)
    {p : MqttPacket} {d d' : BytesMut} (h : codec.encode p d = .ok () d') :
    ∃ w, w ≠ [] ∧ d' = d ++ w ∧ ∀ r, codec.decode (w ++ r) = .ok (some p) r := by
  obtain ⟨k, fl, body, hpacket, hmax⟩ := encode_eq_ok h
  have hlen := Nat.le_trans hmax hcodec
  rw [encode_of_ok hpacket hmax hlen] at h
  cases h
  refine ⟨wire _ body, List.cons_ne_nil _ _, rfl, fun r => ?_⟩
  rw [decode_of_wire hlen hmax, decodeBody_encodePacket hpacket hlen]

/-- A reading of a sensor, to be acknowledged. -/
def reading : MqttPacket :=
  .publish ⟨false, .atLeastOnce, true, "t/1", some 7,
    [.messageExpiryInterval 60, .userProperty "k" "v"], [1, 2]⟩

def readingWire : Bytes :=
  [0x33, 22, 0, 3, 0x74, 0x2f, 0x31, 0, 7, 12, 2, 0, 0, 0, 60, 0x26, 0, 1, 0x6b, 0, 1, 0x76, 1, 2]

theorem decode_encode_append_publish : ∃ w, w ≠ [] ∧ 9 :: readingWire = [9] ++ w ∧
    ∀ r, MqttCodec.new.decode (w ++ r) = .ok (some reading) r := by
  have hencode : new.encode reading [9] = .ok () (9 :: readingWire) :=
    runOn_eq_ok.1 (by decide +kernel)
  exact decode_encode_append (Nat.le_refl _) hencode

/-- What was decoded is encoded again, in no more bytes than it took, and decodes to the same. -/
theorem encode_decode_length_le {codec : MqttCodec} {src rest : BytesMut} {p : MqttPacket}
    (h : codec.decode src = .ok (some p) rest) :
    ∃ c w, src = c ++ rest ∧ (∀ d, codec.encode p d = .ok () (d ++ w)) ∧ w.length ≤ c.length ∧
      codec.decode w = .ok (some p) [] := by
  obtain ⟨b, body, hlen, hmax, rfl, hbody⟩ := decode_eq_some h
  obtain ⟨reader, hrun, -⟩ := decodeBody_eq_ok hbody
  obtain ⟨w, r, rfl, -, k, fl, body', hpacket, hle⟩ :=
    parses_decodePacket _ _ _ _ _ _ (at_new body) hrun
  have hle' : body'.length ≤ (w ++ r).length := by
    rw [List.length_append]
    omega
  have hlen' := Nat.le_trans hle' hlen
  have hmax' := Nat.le_trans hle' hmax
  refine ⟨_, _, rfl, encode_of_ok hpacket hmax' hlen', ?_, ?_⟩
  · have := Varint.length_encode_mono hle'
    rw [wire, wire, List.length_cons, List.length_cons, List.length_append, List.length_append]
    omega
  · have := decode_of_wire hlen' hmax' ((k <<< 4) ||| fl) []
    rwa [List.append_nil, decodeBody_encodePacket hpacket hlen'] at this

theorem encode_decode_length_le_padded :
    ∃ c w : Bytes, [0x40, 3, 0, 7, 0, 9] = c ++ [9] ∧
      (∀ d, MqttCodec.new.encode (.pubAck ⟨7, 0, []⟩) d = .ok () (d ++ w)) ∧
      w.length ≤ c.length ∧ MqttCodec.new.decode w = .ok (some (.pubAck ⟨7, 0, []⟩)) [] := by
  have hbody : decodeBody 0x40 [0, 7, 0] = .ok (.pubAck ⟨7, 0, []⟩) := rfl
  have hdecode : new.decode (wire 0x40 [0, 7, 0] ++ [9]) = .ok (some (.pubAck ⟨7, 0, []⟩)) [9] := by
    rw [decode_of_wire (by decide) (by decide), hbody]
  rw [wire, Varint.encode_of_lt (by decide)] at hdecode
  exact encode_decode_length_le hdecode

/-! ## Segmentation -/

/-- More input changes neither a packet nor an error. -/
theorem decode_stable (codec : MqttCodec) (src r : BytesMut) :
    StableCall codec.decode Eq src r := by
  rcases decode_cases codec src with hnone | ⟨e, -, herror⟩ | ⟨b, body, rest, hlen, hmax, rfl⟩
  · exact .none hnone
  · have hsrc := herror []
    rw [List.append_nil] at hsrc
    exact .error hsrc (herror r) rfl
  · have hcall := decode_of_wire hlen hmax b
    have hpos : 0 < (wire b body).length := Nat.succ_pos _
    cases hbody : decodeBody b body with
    | ok p =>
      have hb : codec.decode (wire b body ++ rest) = .ok (some p) rest := by rw [hcall, hbody]
      refine .item hb (by rw [List.length_append]; omega) ?_
      rw [List.append_assoc, hcall, hbody]
    | error e =>
      have hb : codec.decode (wire b body ++ rest) = .error e rest := by rw [hcall, hbody]
      have hbr : codec.decode (wire b body ++ rest ++ r) = .error e (rest ++ r) := by
        rw [List.append_assoc, hcall, hbody]
      exact .error hb hbr rfl

/-- However a stream is cut into chunks, the codec yields the same packets, the same error or none,
and the same leftover. -/
theorem feed_flatten (codec : MqttCodec) (chunks : List Bytes) :
    feed (stateless decode) codec [] chunks = feed (stateless decode) codec [] [chunks.flatten] :=
  (feed_sim (stateless_ok (decode_short (by simp))) fun s b cs _ =>
    (decode_stable s b cs.flatten).stateless).eq

end MqttCodec

end RsNetty.Mqtt

import RsNetty.Verify.Mqtt.Forward
import RsNetty.Verify.Mqtt.Framing

/-!
# Decoding stays inside the buffer

No reader method panics, none moves the reader out of its packet body, and a property is read from
the bytes that its block declares. `decode_confined` collects what follows for the packet decoder.
-/

namespace RsNetty.Mqtt
open EStateM Reader Cursor

/-! ## Fields -/

theorem throws_readExact (n : Nat) : Throws (readExact n) Returned := by
  intro c b e c' hc he
  by_cases h : c.remaining < n
  · rw [readExact, get_bind, if_pos h] at he
    cases he
    exact ⟨returned_decode _, [], b, rfl, rfl⟩
  · rw [remaining_of_at hc] at h
    have hlen : (b.take n).length = n := by rw [List.length_take]; omega
    rw [← List.take_append_drop n b] at hc
    have hok := readExact_ok hc
    rw [hlen] at hok
    cases hok.symm.trans he

theorem throws_readU8 : Throws readU8 Returned := by
  refine (throws_readExact 1).bind (parses_readExact 1) ?_
  rintro _ (_ | ⟨b, _ | _⟩) ⟨rfl, h⟩ <;> cases h
  exact Throws.pure b

theorem throws_readU16 : Throws readU16 Returned := by
  refine (throws_readExact 2).bind (parses_readExact 2) ?_
  rintro _ (_ | ⟨a, _ | ⟨b, _ | _⟩⟩) ⟨rfl, h⟩ <;> cases h
  exact Throws.pure _

theorem throws_readU32 : Throws readU32 Returned := by
  refine (throws_readExact 4).bind (parses_readExact 4) ?_
  rintro _ (_ | ⟨a, _ | ⟨b, _ | ⟨c, _ | ⟨d, _ | _⟩⟩⟩⟩) ⟨rfl, h⟩ <;> cases h
  exact Throws.pure _

theorem throws_readBinaryData : Throws readBinaryData Returned :=
  throws_readU16.bind parses_readU16 fun len _ _ => throws_readExact len.toNat

theorem throws_readUtf8String : Throws readUtf8String Returned := by
  refine throws_readU16.bind parses_readU16 fun len _ _ => ?_
  refine (throws_readExact len.toNat).bind (parses_readExact len.toNat) fun bytes _ _ => ?_
  refine Throws.lifted fun e he => ?_
  cases hs : fromUtf8 bytes with
  | ok s =>
    rw [hs] at he
    cases he
  | error err =>
    rw [hs] at he
    cases he
    exact returned_decode _

theorem throws_readRemainingBytes : Throws readRemainingBytes Returned := by
  intro c b e c' hc he
  rw [readRemainingBytes, get_bind, sliceFrom_ok hc.1, Exec.call_ok] at he
  cases he

theorem validateVariableIntegerEncoding_error
    (h : validateVariableIntegerEncoding value len = .error e) : Returned e := by
  unfold validateVariableIntegerEncoding at h
  split at h
  · cases h
    exact returned_decode _
  · cases h

/-- The products and sums of the loop fit in `u32`. -/
theorem throws_readVariableIntegerLoop
    (hmul : multiplier.toNat * 128 ^ n ≤ 2 ^ 28) (hval : value.toNat < multiplier.toNat) :
    Throws (readVariableIntegerLoop multiplier value len n) Returned := by
  induction n generalizing multiplier value len with
  | zero => exact Throws.throw (returned_decode _)
  | succ n ih =>
    obtain ⟨hm, hm', hle, hmul'⟩ := readVariableIntegerLoop_multiplier hmul
    rw [readVariableIntegerLoop]
    refine throws_readU8.bind parses_readU8 fun b _ _ => ?_
    obtain ⟨product, value', hp, ha, hnat, hlt⟩ := readVariableIntegerLoop_step b hle hval
    rw [hp, Exec.call_ok, ha, Exec.call_ok]
    refine Throws.ite (fun hb => ?_) fun hb => ?_
    · exact Throws.lifted_bind (fun _ => validateVariableIntegerEncoding_error)
        fun _ _ => Throws.pure _
    · rw [hm, Exec.call_ok]
      exact ih hmul' (by omega)

theorem throws_readVariableInteger : Throws readVariableInteger Returned :=
  throws_readVariableIntegerLoop (by decide) (by decide)

/-- A loop with an iteration for every byte does not run out of them, for every item takes one. -/
theorem whileRemaining_error {item : Exec Reader α} {Q : α → Bytes → Prop}
    (ht : Throws item Returned) (hp : Parses item Q) (hne : ∀ v w, Q v w → w ≠ [])
    (hc : At c b) (hfuel : b.length ≤ fuel) (he : whileRemaining item fuel c = .error e c') :
    Returned e ∧ ∃ w r, b = w ++ r ∧ c' = skip c w.length := by
  induction fuel generalizing c b with
  | zero =>
    rw [whileRemaining, get_bind, remaining_of_at hc, if_neg (by omega)] at he
    cases he
  | succ fuel ih =>
    rw [whileRemaining, get_bind, remaining_of_at hc] at he
    split at he
    · rcases bind_eq_error.1 he with hitem | ⟨v, c₁, hitem, he⟩
      · exact ht c b e c' hc hitem
      · obtain ⟨w, r, rfl, rfl, hQ⟩ := hp c b v c₁ hc hitem
        have hpos := List.length_pos_iff.2 (hne v w hQ)
        rw [List.length_append] at hfuel
        rcases bind_eq_error.1 he with hrest | ⟨vs, c₂, -, he⟩
        · obtain ⟨hE, w₂, r₂, rfl, rfl⟩ := ih (at_skip hc) (by omega) hrest
          refine ⟨hE, w ++ w₂, r₂, (List.append_assoc ..).symm, ?_⟩
          rw [skip_skip, List.length_append]
        · cases he
    · cases he

theorem throws_items {item : Exec Reader α} {Q : α → Bytes → Prop} (ht : Throws item Returned)
    (hp : Parses item Q) (hne : ∀ v w, Q v w → w ≠ []) {f : List α → Exec Reader β}
    (hf : ∀ vs, Throws (f vs) Returned) :
    Throws (get >>= fun c => whileRemaining item c.remaining >>= f) Returned := by
  intro c b e c' hc he
  rw [get_bind] at he
  rcases bind_eq_error.1 he with hitems | ⟨vs, c₁, hitems, he⟩
  · exact whileRemaining_error ht hp hne hc (Nat.le_of_eq (remaining_of_at hc).symm) hitems
  · obtain ⟨w, r, rfl, rfl, -⟩ := parses_whileRemaining hp c b vs c₁ hc hitems
    obtain ⟨hE, w₂, r₂, rfl, rfl⟩ := hf vs _ r e c' (at_skip hc) he
    refine ⟨hE, w ++ w₂, r₂, (List.append_assoc ..).symm, ?_⟩
    rw [skip_skip, List.length_append]

/-! ## Properties -/

theorem throws_decodePropertyValue (id : UInt8) : Throws (decodePropertyValue id) Returned := by
  unfold decodePropertyValue
  split
  case h_23 =>
    exact throws_readUtf8String.bind parses_readUtf8String fun _ _ _ => throws_readUtf8String.map
  case h_28 => exact Throws.throw (returned_decode _)
  all_goals first
    | exact throws_readU8.map
    | exact throws_readU16.map
    | exact throws_readU32.map
    | exact throws_readVariableInteger.map
    | exact throws_readUtf8String.map
    | exact throws_readBinaryData.map

theorem throws_decodeProperty : Throws decodeProperty Returned :=
  throws_readVariableInteger.bind parses_readVariableInteger fun id _ _ =>
    throws_decodePropertyValue id.toUInt8

theorem decodeProperties_error (h : decodeProperties block = .error e) : Returned e := by
  rcases Except.bind_eq_error.1 h with hrun | ⟨_, _, h⟩
  · obtain ⟨c', he⟩ := runOn_eq_error.1 hrun
    have hfuel := Nat.le_of_eq (remaining_of_at (at_new block)).symm
    exact (whileRemaining_error throws_decodeProperty parses_decodeProperty
      (fun _ _ hf => hf.ne_nil) (at_new block) hfuel he).1
  · cases h

theorem throws_readProperties : Throws readProperties Returned := by
  refine throws_readVariableInteger.bind parses_readVariableInteger fun len _ _ => ?_
  refine Throws.get_bind fun self => ?_
  cases hstop : checkedAdd self.pos len.toNat with
  | none => exact Throws.throw (returned_decode _)
  | some stop =>
    obtain ⟨-, rfl⟩ := checkedAdd_eq_some.1 hstop
    refine Throws.ite (fun _ => Throws.throw (returned_decode _)) fun hle => ?_
    rw [slice_ok ⟨Nat.le_add_right _ _, Nat.le_of_not_lt hle⟩, Exec.call_ok]
    intro c b e c' hc he
    rcases bind_eq_error.1 he with hblock | ⟨_, _, _, he⟩
    · obtain ⟨hps, rfl⟩ := lifted_eq_error.1 hblock
      exact ⟨decodeProperties_error hps, [], b, rfl, rfl⟩
    · cases he

/-! ## Bodies -/

theorem returned_fromU8 {v : UInt8} (h : QoS.fromU8 v = .error e) : Returned e := by
  unfold QoS.fromU8 at h
  split at h <;> cases h
  exact returned_decode _

theorem throws_readIf {x : Exec Reader α} (h : Throws x Returned) (flag : Bool) :
    Throws (readIf flag x) Returned := by
  cases flag with
  | false => exact Throws.pure none
  | true => exact h.map

theorem throws_decodeWill (flag : Bool) (qos : QoS) (retain : Bool) :
    Throws (decodeConnect.decodeWill flag qos retain) Returned := by
  refine Throws.ite (fun _ => ?_) fun _ => Throws.pure none
  refine throws_readProperties.bind parses_readProperties fun _ _ _ => ?_
  refine throws_readUtf8String.bind parses_readUtf8String fun _ _ _ => ?_
  exact throws_readBinaryData.map

theorem throws_connect : Throws decodeConnect Returned := by
  refine throws_readUtf8String.bind parses_readUtf8String fun _ _ _ => ?_
  refine Throws.lifted_bind (fun _ => returned_failIf) fun _ _ => ?_
  refine throws_readU8.bind parses_readU8 fun _ _ _ => ?_
  refine Throws.lifted_bind (fun _ => returned_failIf) fun _ _ => ?_
  refine throws_readU8.bind parses_readU8 fun _ _ _ => ?_
  refine Throws.lifted_bind (fun _ => returned_failIf) fun _ _ => ?_
  refine Throws.lifted_bind (fun _ => returned_fromU8) fun _ _ => ?_
  refine Throws.lifted_bind (fun _ => returned_failIf) fun _ _ => ?_
  refine Throws.lifted_bind (fun _ => returned_failIf) fun _ _ => ?_
  refine throws_readU16.bind parses_readU16 fun _ _ _ => ?_
  refine throws_readProperties.bind parses_readProperties fun _ _ _ => ?_
  refine throws_readUtf8String.bind parses_readUtf8String fun _ _ _ => ?_
  refine (throws_decodeWill _ _ _).bind (parses_decodeWill _ _ _) fun _ _ _ => ?_
  refine (throws_readIf throws_readUtf8String _).bind (parses_readIf canonical_utf8String _)
    fun _ _ _ => ?_
  exact (throws_readIf throws_readBinaryData _).map

theorem throws_connack : Throws decodeConnack Returned := by
  refine throws_readU8.bind parses_readU8 fun _ _ _ => ?_
  refine Throws.lifted_bind (fun _ => returned_failIf) fun _ _ => ?_
  refine throws_readU8.bind parses_readU8 fun _ _ _ => ?_
  exact throws_readProperties.map

theorem throws_decodePacketId (qos : QoS) :
    Throws (decodePublish.decodePacketId qos) Returned := by
  refine Throws.ite (fun _ => Throws.pure none) fun _ => ?_
  refine throws_readU16.bind parses_readU16 fun _ _ _ => ?_
  exact Throws.lifted_bind (fun _ => returned_failIf) fun _ _ => Throws.pure _

theorem throws_publish (flags : UInt8) : Throws (decodePublish flags) Returned := by
  refine Throws.lifted_bind (fun _ => returned_fromU8) fun qos _ => ?_
  refine Throws.lifted_bind (fun _ => returned_failIf) fun _ _ => ?_
  refine throws_readUtf8String.bind parses_readUtf8String fun _ _ _ => ?_
  refine (throws_decodePacketId qos).bind (parses_decodePacketId qos) fun _ _ _ => ?_
  refine throws_readProperties.bind parses_readProperties fun _ _ _ => ?_
  exact throws_readRemainingBytes.map

theorem throws_decodeTrailingProperties : Throws decodeTrailingProperties Returned :=
  Throws.get_bind fun _ => Throws.ite (fun _ => Throws.pure []) fun _ => throws_readProperties

/-- The tail of an acknowledgement, of DISCONNECT and of AUTH. -/
theorem throws_reason (f : UInt8 → List MqttProperty → α) (a : α) :
    Throws
      (get >>= fun self =>
        if self.remaining = 0 then pure a
        else do
          let reasonCode ← readU8
          let properties ← decodeTrailingProperties
          return f reasonCode properties) Returned := by
  refine Throws.get_bind fun _ => Throws.ite (fun _ => Throws.pure a) fun _ => ?_
  refine throws_readU8.bind parses_readU8 fun _ _ _ => ?_
  exact throws_decodeTrailingProperties.map

theorem throws_ack : Throws decodeAck Returned := by
  refine throws_readU16.bind parses_readU16 fun packetId _ _ => ?_
  refine Throws.lifted_bind (fun _ => returned_failIf) fun _ _ => ?_
  exact throws_reason (AckPacket.mk packetId) _

theorem throws_subscription : Throws decodeSubscription Returned := by
  refine throws_readUtf8String.bind parses_readUtf8String fun _ _ _ => ?_
  refine throws_readU8.bind parses_readU8 fun _ _ _ => ?_
  refine Throws.lifted_bind (fun _ => returned_failIf) fun _ _ => ?_
  exact Throws.lifted_bind (fun _ => returned_fromU8) fun _ _ => Throws.pure _

theorem throws_subscribe : Throws decodeSubscribe Returned := by
  have hitem : Parses decodeSubscription fun _ w => w ≠ [] := by
    refine parses_readUtf8String.bind fun _ _ _ => parses_readU8.bind ?_
    rintro _ _ rfl
    exact Parses.lifted_bind fun _ _ => Parses.lifted_bind fun _ _ => Parses.pure (by simp)
  refine throws_readU16.bind parses_readU16 fun _ _ _ => ?_
  refine Throws.lifted_bind (fun _ => returned_failIf) fun _ _ => ?_
  refine throws_readProperties.bind parses_readProperties fun _ _ _ => ?_
  refine throws_items throws_subscription hitem (fun _ _ h => h) fun _ => ?_
  exact Throws.lifted_bind (fun _ => returned_failIf) fun _ _ => Throws.pure _

theorem throws_unsubscribe : Throws decodeUnsubscribe Returned := by
  have hitem : Parses readUtf8String fun _ w => w ≠ [] := by
    refine parses_readU16.bind fun len w hw => ?_
    refine (parses_readExact len.toNat).bind fun _ _ _ => Parses.lifted fun _ _ h => ?_
    have := congrArg List.length h
    rw [hw] at this
    simp at this
  refine throws_readU16.bind parses_readU16 fun _ _ _ => ?_
  refine Throws.lifted_bind (fun _ => returned_failIf) fun _ _ => ?_
  refine throws_readProperties.bind parses_readProperties fun _ _ _ => ?_
  refine throws_items throws_readUtf8String hitem (fun _ _ h => h) fun _ => ?_
  exact Throws.lifted_bind (fun _ => returned_failIf) fun _ _ => Throws.pure _

theorem throws_reasonCodes (name : String) : Throws (decodeReasonCodes name) Returned := by
  refine throws_readU16.bind parses_readU16 fun _ _ _ => ?_
  refine Throws.lifted_bind (fun _ => returned_failIf) fun _ _ => ?_
  refine throws_readProperties.bind parses_readProperties fun _ _ _ => ?_
  refine throws_readRemainingBytes.bind parses_readRemainingBytes fun _ _ _ => ?_
  exact Throws.lifted_bind (fun _ => returned_failIf) fun _ _ => Throws.pure _

theorem throws_suback : Throws decodeSuback Returned := (throws_reasonCodes "SUBACK").map

theorem throws_unsuback : Throws decodeUnsuback Returned := (throws_reasonCodes "UNSUBACK").map

theorem throws_decodeReason : Throws decodeReason Returned := throws_reason Prod.mk _

theorem throws_disconnect : Throws decodeDisconnect Returned := throws_decodeReason.map

theorem throws_auth : Throws decodeAuth Returned := throws_decodeReason.map

/-! ## Packets -/

theorem throws_packet {x : Exec Reader α} (h : Throws x Returned) {f : α → MqttPacket}
    {k actual expected : UInt8} :
    Throws (do expectFlags k actual expected; return f (← x) : Exec Reader MqttPacket) Returned :=
  Throws.lifted_bind (fun _ => returned_failIf) fun _ _ => h.map

theorem throws_expectEmpty :
    Throws (do expectEmpty (← get) : Exec Reader Unit) Returned :=
  Throws.get_bind fun _ => Throws.lifted fun _ => returned_failIf

theorem throws_decodePacket (packetType flags : UInt8) :
    Throws (decodePacket packetType flags) Returned := by
  unfold decodePacket
  split
  · exact throws_packet throws_connect
  · exact throws_packet throws_connack
  · exact (throws_publish flags).map
  · exact throws_packet throws_ack
  · exact throws_packet throws_ack
  · exact throws_packet throws_ack
  · exact throws_packet throws_ack
  · exact throws_packet throws_subscribe
  · exact throws_packet throws_suback
  · exact throws_packet throws_unsubscribe
  · exact throws_packet throws_unsuback
  · exact throws_packet (f := fun _ => .pingReq) throws_expectEmpty
  · exact throws_packet (f := fun _ => .pingResp) throws_expectEmpty
  · exact throws_packet throws_disconnect
  · exact throws_packet throws_auth
  · exact Throws.throw (returned_decode _)


/-! ## Confinement -/

/-- From `c`, a reader of the same bytes, no further back and inside them. -/
structure Advances (c c' : Reader) : Prop where
  src_eq : c'.src = c.src
  pos_le : c.pos ≤ c'.pos
  pos_le_length : c'.pos ≤ c'.src.length

/-- A reader that has nothing left stands at the end. -/
theorem Advances.eq_end (h : Advances (Reader.new body) c') (hrem : c'.remaining = 0) :
    c' = ⟨body, body.length⟩ := by
  obtain ⟨bytes, pos⟩ := c'
  obtain ⟨rfl, -, hpos⟩ := h
  rw [remaining] at hrem
  dsimp only [Reader.new] at hrem hpos ⊢
  congr
  omega

theorem advances_skip {c : Reader} (h : At c (w ++ r)) : Advances c (skip c w.length) :=
  ⟨rfl, Nat.le_add_right _ _, (slice_of_at h).1⟩

theorem readExact_pos (h : readExact n c = .ok w c') : c'.pos = c.pos + n := by
  rw [readExact, get_bind] at h
  split at h
  · cases h
  · rw [set_bind] at h
    obtain ⟨-, rfl⟩ := lifted_eq_ok.1 h
    rfl

/-- From inside its bytes, the method ends inside them, whether it returns a value or an error, and
never panics. -/
structure StaysInside (x : Exec Reader α) : Prop where
  ok : c.pos ≤ c.src.length → x c = .ok v c' → Advances c c'
  error : c.pos ≤ c.src.length → x c = .error e c' → Returned e ∧ Advances c c'

theorem staysInside {x : Exec Reader α} {Q : α → Bytes → Prop}
    (ht : Throws x Returned) (hp : Parses x Q) : StaysInside x where
  ok hc hv := by
    obtain ⟨w, r, hb, rfl, -⟩ := hp _ _ _ _ ⟨hc, rfl⟩ hv
    exact advances_skip ⟨hc, hb⟩
  error hc he := by
    obtain ⟨hE, w, r, hb, rfl⟩ := ht _ _ _ _ ⟨hc, rfl⟩ he
    exact ⟨hE, advances_skip ⟨hc, hb⟩⟩

/-- A block within its packet: the properties are those of its bytes, and the reader goes to its
end. -/
theorem readProperties_block (hlen : readVariableInteger c = .ok len c')
    (hmax : c'.pos + len.toNat ≤ usizeMax) (hstop : c'.pos + len.toNat ≤ c'.src.length) :
    readProperties c =
      (do let properties ← decodeProperties ((c'.src.drop c'.pos).take len.toNat)
          set { c' with pos := c'.pos + len.toNat }
          return properties : Exec Reader (List MqttProperty)) c' := by
  rw [readProperties, bind_of_ok hlen, get_bind, checkedAdd_of_le hmax, okOr, Exec.call_ok,
    if_neg (Nat.not_lt.2 hstop), slice_ok ⟨Nat.le_add_right _ _, hstop⟩, Exec.call_ok,
    Nat.add_sub_cancel_left]

/-- A longer one is refused unread. -/
theorem readProperties_beyond (hlen : readVariableInteger c = .ok len c')
    (hstop : c'.src.length < c'.pos + len.toNat) :
    ∃ text, readProperties c = .error (.decode text) c' := by
  rw [readProperties, bind_of_ok hlen, get_bind]
  cases hadd : checkedAdd c'.pos len.toNat with
  | none => exact ⟨_, rfl⟩
  | some stop =>
    obtain ⟨-, rfl⟩ := checkedAdd_eq_some.1 hadd
    rw [okOr, Exec.call_ok, if_pos hstop]
    exact ⟨_, rfl⟩

/-- Every method of the reader stays inside, with each item and each packet body read through it.
The sum of `readExact` is the new position, and a block of properties is read from its own bytes. -/
structure ReaderConfined : Prop where
  readExact (n : Nat) : StaysInside (readExact n)
  readExact_pos : Reader.readExact n c = .ok w c' → c'.pos = c.pos + n
  readU8 : StaysInside readU8
  readU16 : StaysInside readU16
  readU32 : StaysInside readU32
  readUtf8String : StaysInside readUtf8String
  readBinaryData : StaysInside readBinaryData
  readVariableInteger : StaysInside readVariableInteger
  readRemainingBytes : StaysInside readRemainingBytes
  readProperties : StaysInside readProperties
  readProperties_block : Reader.readVariableInteger c = .ok len c' →
    c'.pos + len.toNat ≤ usizeMax → c'.pos + len.toNat ≤ c'.src.length →
    Reader.readProperties c =
      (do let properties ← decodeProperties ((c'.src.drop c'.pos).take len.toNat)
          set { c' with pos := c'.pos + len.toNat }
          return properties : Exec Reader (List MqttProperty)) c'
  readProperties_beyond : Reader.readVariableInteger c = .ok len c' →
    c'.src.length < c'.pos + len.toNat →
    ∃ text, Reader.readProperties c = .error (.decode text) c'
  decodeProperty : StaysInside decodeProperty
  decodeProperties : decodeProperties block = .error e → Returned e
  decodePacket (packetType flags : UInt8) : StaysInside (decodePacket packetType flags)

theorem readerConfined : ReaderConfined where
  readExact n := staysInside (throws_readExact n) (parses_readExact n)
  readExact_pos := readExact_pos
  readU8 := staysInside throws_readU8 parses_readU8
  readU16 := staysInside throws_readU16 parses_readU16
  readU32 := staysInside throws_readU32 parses_readU32
  readUtf8String := staysInside throws_readUtf8String parses_readUtf8String
  readBinaryData := staysInside throws_readBinaryData parses_readBinaryData
  readVariableInteger := staysInside throws_readVariableInteger parses_readVariableInteger
  readRemainingBytes := staysInside throws_readRemainingBytes parses_readRemainingBytes
  readProperties := staysInside throws_readProperties parses_readProperties
  readProperties_block := Mqtt.readProperties_block
  readProperties_beyond := Mqtt.readProperties_beyond
  decodeProperty := staysInside throws_decodeProperty parses_decodeProperty
  decodeProperties := decodeProperties_error
  decodePacket k fl := staysInside (throws_decodePacket k fl) (parses_decodePacket k fl)

/-! ## The packet decoder -/

theorem decodeRemainingLengthPrefix_le {bytes : Bytes}
    (h : decodeRemainingLengthPrefix bytes = .ok (some (n, len))) :
    n ≤ maxRemainingLength ∧ len ≤ 4 := by
  obtain ⟨hn, rfl, -⟩ := decodeRemainingLengthPrefix_some h
  exact ⟨hn, length_encode_le_four hn⟩

theorem remainingLengthLen_le (h : value ≤ usizeMax) : remainingLengthLen value ≤ 10 := by
  rw [remainingLengthLen_eq]
  exact Varint.length_encode_le (by rw [usizeMax] at h; omega)

theorem decodeBody_error (h : decodeBody b body = .error e) : Returned e := by
  rcases Except.bind_eq_error.1 h with hrun | ⟨_, -, hrest⟩
  · obtain ⟨c', he⟩ := runOn_eq_error.1 hrun
    exact (throws_decodePacket _ _ _ _ _ _ (at_new body) he).1
  · rcases Except.bind_eq_error.1 hrest with hfail | ⟨_, -, hpure⟩
    · exact returned_failIf hfail
    · cases hpure

/-- No method of the reader, no packet body and no call of the codec slices, splits or indexes out
of range or overflows; and the codec takes a packet from exactly the bytes that its Remaining Length
announces. -/
theorem MqttCodec.decode_confined :
    ReaderConfined ∧
    (∀ bytes n len, decodeRemainingLengthPrefix bytes = .ok (some (n, len)) →
      n ≤ maxRemainingLength ∧ len ≤ 4) ∧
    (∀ value ≤ usizeMax, remainingLengthLen value ≤ 10) ∧
    ∀ (codec : MqttCodec) (bytes : BytesMut),
      (∀ e rest, codec.decode bytes = .error e rest → Returned e) ∧
      ∀ p rest, codec.decode bytes = .ok (some p) rest →
        ∃ h field body, bytes = h :: (field ++ (body ++ rest)) ∧
          decodeRemainingLengthPrefix (bytes.drop 1) = .ok (some (body.length, field.length)) ∧
          decodePacket (h >>> 4) (h &&& 0x0f) (Reader.new body) = .ok p ⟨body, body.length⟩ := by
  refine ⟨readerConfined, fun _ _ _ => decodeRemainingLengthPrefix_le,
    fun _ => remainingLengthLen_le, fun codec bytes => ⟨fun e rest h => ?_, fun p rest h => ?_⟩⟩
  · rcases decode_eq_error h with ⟨he, -⟩ | ⟨b, body, -, -, -, hbody⟩
    · exact he
    · exact decodeBody_error hbody
  · obtain ⟨b, body, hlen, -, rfl, hbody⟩ := decode_eq_some h
    obtain ⟨reader, hrun, hrem⟩ := decodeBody_eq_ok hbody
    have hadv := (readerConfined.decodePacket _ _).ok (Nat.zero_le _) hrun
    refine ⟨b, Varint.encode body.length, body, ?_, ?_, ?_⟩
    · rw [wire, List.cons_append, List.append_assoc]
    · rw [wire, List.cons_append, List.drop_one, List.tail_cons, List.append_assoc,
        decodeRemainingLengthPrefix_encode hlen]
    · rw [hrun, hadv.eq_end hrem]

end RsNetty.Mqtt

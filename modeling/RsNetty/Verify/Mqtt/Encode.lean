import RsNetty.Verify.Mqtt.Framing

/-!
# Writing a packet as a whole or not at all

The body of a packet passes the limit of the codec, a cast to `u32` and the limit of the variable
byte integers, with the first byte of the fixed header written in between.
`encode_allOrNothing_iff` says between which of these limits a packet is written in part.
-/

namespace RsNetty.Mqtt
open EStateM

namespace MqttCodec

/-- The encoder fails and leaves the buffer, or appends a frame whose Remaining Length field counts
the bytes behind it. -/
def AllOrNothing (codec : MqttCodec) (p : MqttPacket) (dst : BytesMut) : Prop :=
  (∃ e, codec.encode p dst = .error e dst) ∨
    ∃ fixedHeader field body, codec.encode p dst = .ok () (dst ++ fixedHeader :: (field ++ body)) ∧
      decodeRemainingLengthPrefix (field ++ body) = .ok (some (body.length, field.length))

theorem encode_refused {codec : MqttCodec} (h : encodePacket p = .error e) (dst : BytesMut) :
    codec.encode p dst = .error e dst := by
  rw [encode, h]
  rfl

theorem encode_full {codec : MqttCodec} (h : encodePacket p = .ok (k, fl, body))
    (hmax : codec.maxPacketSize < body.length) (dst : BytesMut) :
    codec.encode p dst = .error (.err (.frameTooLarge body.length codec.maxPacketSize)) dst := by
  rw [encode, h, Exec.call_ok]
  dsimp only
  rw [failIf, if_pos hmax]
  rfl

/-- Whatever the length is cast to is written behind the first byte. -/
theorem encode_cast {codec : MqttCodec} (h : encodePacket p = .ok (k, fl, body))
    (hmax : body.length ≤ codec.maxPacketSize) (dst : BytesMut) :
    codec.encode p dst =
      if body.length % 2 ^ 32 ≤ maxRemainingLength then
        .ok () (dst ++ ((k <<< 4) ||| fl) :: (Varint.encode (body.length % 2 ^ 32) ++ body))
      else
        .error (.encode s!"MQTT variable integer too large: {UInt32.ofNat body.length}")
          (dst ++ [(k <<< 4) ||| fl]) := by
  have hcast : (UInt32.ofNat body.length).toNat = body.length % 2 ^ 32 := UInt32.toNat_ofNat'
  rw [encode, h, Exec.call_ok]
  dsimp only
  rw [failIf_eq_ok.2 (Nat.not_lt.2 hmax), Exec.call_ok, bind_of_ok (extendFromSlice_eq _ _)]
  by_cases hfits : body.length % 2 ^ 32 ≤ maxRemainingLength
  · rw [if_pos hfits]
    have hnumeral := emits_writeVariableInteger (v := UInt32.ofNat body.length) (by rwa [hcast])
    rw [hcast] at hnumeral
    rw [hnumeral.bind (emits_extendFromSlice body) _]
    simp
  · rw [if_neg hfits, writeVariableInteger, if_pos (by rw [hcast]; omega)]
    rfl

/-- A body over the limit of the variable byte integers is written in part, or behind the length
that is left of it after the cast. -/
theorem not_allOrNothing {codec : MqttCodec} (h : encodePacket p = .ok (k, fl, body))
    (hmax : body.length ≤ codec.maxPacketSize) (hlong : maxRemainingLength < body.length)
    (dst : BytesMut) : ¬AllOrNothing codec p dst := by
  have hencode := encode_cast h hmax dst
  rintro (⟨e, herror⟩ | ⟨fixedHeader, field, body', hok, hfield⟩)
  · split at hencode
    case isTrue => cases hencode.symm.trans herror
    case isFalse =>
      injection hencode.symm.trans herror with _ hdst
      cases List.append_right_eq_self.1 hdst
  · split at hencode
    case isFalse => cases hencode.symm.trans hok
    case isTrue hfits =>
      injection hencode.symm.trans hok with _ hdst
      injection List.append_cancel_left hdst with _ hbytes
      rw [← hbytes, decodeRemainingLengthPrefix_encode hfits] at hfield
      injection hfield with hfield
      injection hfield with hfield
      injection hfield with hvalue hlen
      have hlength := congrArg List.length hbytes
      rw [List.length_append, List.length_append] at hlength
      rw [maxRemainingLength] at hlong hfits
      omega

/-- A packet is written as a whole or not at all, exactly if it is refused for what it holds, or its
body is longer than the codec allows or at most as long as a Remaining Length can say. -/
theorem encode_allOrNothing_iff (codec : MqttCodec) (p : MqttPacket) (dst : BytesMut) :
    AllOrNothing codec p dst ↔
      ∀ packetType flags body, encodePacket p = .ok (packetType, flags, body) →
        body.length ≤ codec.maxPacketSize → body.length ≤ maxRemainingLength := by
  constructor
  · intro h packetType flags body hpacket hmax
    by_contra hlong
    exact not_allOrNothing hpacket hmax (Nat.lt_of_not_le hlong) dst h
  · intro h
    cases hpacket : encodePacket p with
    | error e => exact .inl ⟨e, encode_refused hpacket dst⟩
    | ok found =>
      obtain ⟨k, fl, body⟩ := found
      by_cases hmax : body.length ≤ codec.maxPacketSize
      · have hlen := h k fl body hpacket hmax
        exact .inr ⟨_, _, body, encode_of_ok hpacket hmax hlen dst,
          decodeRemainingLengthPrefix_encode hlen body⟩
      · exact .inl ⟨_, encode_full hpacket (Nat.lt_of_not_le hmax) dst⟩

/-- A PUBLISH packet with an empty topic. -/
def publish (payload : Bytes) : PublishPacket :=
  { dup := false, qos := .atMostOnce, retain := false, topicName := "", packetId := none,
    properties := [], payload }

theorem encodePacket_publish (payload : Bytes) :
    encodePacket (.publish (publish payload)) = .ok (3, 0, [0, 0, 0] ++ payload) := by
  have htopic : writeUtf8String "" [] = .ok () [0, 0] := runOn_eq_ok.1 (by decide)
  have hproperties : writeProperties [] [0, 0] = .ok () [0, 0, 0] := by
    have hnone : Emits (encodeEach encodeProperty []) () [] := Emits.pure ()
    rw [emits_writeProperties hnone (Nat.zero_le _), Varint.encode_of_lt (by decide)]
    rfl
  have hbody : encodePublish (publish payload) [] = .ok 0 ([0, 0, 0] ++ payload) := by
    have hnone : ¬((publish payload).qos = .atMostOnce ∧ (publish payload).packetId.isSome) :=
      fun h => Bool.false_ne_true h.2
    have hsome : ¬((publish payload).qos ≠ .atMostOnce ∧ (publish payload).packetId.isNone) :=
      fun h => h.1 rfl
    rw [encodePublish, failIf_eq_ok.2 hnone, Exec.call_ok, failIf_eq_ok.2 hsome, Exec.call_ok]
    exact (bind_of_ok rfl).trans ((bind_of_ok htopic).trans
      ((bind_of_ok rfl).trans ((bind_of_ok hproperties).trans rfl)))
  rw [encodePacket, runOn_of_ok hbody]
  rfl

/-- A payload of 256 MiB and a limit of twice that. -/
theorem not_allOrNothing_publish :
    ¬∀ codec p dst, AllOrNothing codec p dst := by
  intro h
  have hlength : ([0, 0, 0] ++ List.replicate 268435456 0 : Bytes).length = 268435459 := by
    rw [List.length_append, List.length_replicate]
    rfl
  have hmax : ([0, 0, 0] ++ List.replicate 268435456 0 : Bytes).length ≤
      (withMaxPacketSize 536870912).maxPacketSize := by
    rw [hlength]
    decide
  have hlong : maxRemainingLength < ([0, 0, 0] ++ List.replicate 268435456 0 : Bytes).length := by
    rw [hlength]
    decide
  exact not_allOrNothing (encodePacket_publish _) hmax hlong [] (h _ _ _)

end MqttCodec

end RsNetty.Mqtt

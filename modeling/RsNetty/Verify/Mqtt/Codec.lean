import RsNetty.Codec.Mqtt.Codec
import RsNetty.Verify.Mqtt.Property

/-!
# MQTT packets

For every packet body: the decoder reads back what the encoder emits (`roundTrip_*`), and the
encoder writes what the decoder accepted, in no more bytes (`forwards_*`). The codec's two round
trips follow, from the packet (`MqttCodec.decode_encode_append`) and from the wire
(`MqttCodec.encode_decode_length_le`).
-/

namespace RsNetty.Mqtt
open EStateM Reader Cursor

/-! ## Parts of a body -/

theorem roundTrip_writeSome {wr : α → Exec BytesMut Unit} {x : Exec Reader α}
    (h : Canonical wr x) (o : Option α) :
    RoundTrip (writeSome o wr) (readIf o.isSome x) o := by
  cases o with
  | none => exact RoundTrip.pure () none
  | some a => exact (h.roundTrip a).map rfl

/-- Repeated items that fill the rest of the body. -/
theorem roundTrip_encodeEach {encode : α → Exec BytesMut Unit} {item : Exec Reader α}
    (h : ∀ v, RoundTrip (encode v) item v) (hnil : ∀ v s, item (Reader.new []) ≠ .ok v s)
    (vs : List α) {f : List α → Exec Reader β} (hf : f vs = pure v) :
    RoundTripAll (encodeEach encode vs)
      (get >>= fun self => whileRemaining item self.remaining >>= f) v := by
  rw [← bind_assoc]
  refine RoundTripAll.map ?_ hf
  refine ⟨appendOnly_encodeEach (fun v => (h v).1) vs, fun _ w hw => ?_⟩
  obtain ⟨ws, rfl, hws⟩ := encodeEach_emits (fun v => (h v).1) hw
  refine ReadsAll.get_bind fun c hc => readsAll_whileRemaining (hws.imp fun v w hv => ?_) ?_
  · refine ⟨(h v).2 _ w hv, ?_⟩
    rintro rfl
    exact hnil _ _ ((h v).2 _ [] hv _ [] (Nat.zero_le _) (at_new []))
  · rw [remaining_of_at hc]

theorem reads_readRemainingBytes (w : Bytes) : ReadsAll readRemainingBytes w w := by
  intro c _ hc
  have hlen := congrArg List.length hc.2
  rw [List.length_drop] at hlen
  have hpos : c.pos + w.length = c.src.length := by
    have := hc.1
    omega
  rw [readRemainingBytes, get_bind, sliceFrom_ok hc.1, Exec.call_ok, hc.2]
  change Result.ok w { c with pos := c.src.length } = Result.ok w { c with pos := c.pos + w.length }
  rw [hpos]

theorem roundTrip_remainingBytes (w : Bytes) :
    RoundTripAll (extendFromSlice w) readRemainingBytes w := by
  refine ⟨appendOnly_extendFromSlice w, fun _ w' hw => ?_⟩
  obtain ⟨-, rfl⟩ := hw.inj (emits_extendFromSlice w)
  exact reads_readRemainingBytes w'

theorem reads_decodeTrailingProperties (h : Emits (writeProperties ps) () w) :
    ReadsAll decodeTrailingProperties w ps := by
  refine ReadsAll.get_bind fun c hc => ?_
  have hne : w ≠ [] := by
    rintro rfl
    obtain ⟨block, -, -, hw⟩ := writeProperties_emits h (Nat.zero_le _)
    exact Varint.encode_ne_nil _ (List.append_eq_nil_iff.1 hw.symm).1
  rw [if_neg (by rw [remaining_of_at hc]; exact fun h0 => hne (List.length_eq_zero_iff.1 h0))]
  exact ((roundTrip_properties ps).2 _ w h).all

theorem encodeReason_nil (reasonCode : UInt8) :
    encodeReason reasonCode [] = if reasonCode = 0 then pure () else writeU8 reasonCode := by
  unfold encodeReason
  by_cases h : reasonCode = 0 <;> simp [h]

theorem encodeReason_of_ne_nil (reasonCode : UInt8) {ps : List MqttProperty} (h : ps ≠ []) :
    encodeReason reasonCode ps = writeU8 reasonCode >>= fun _ => writeProperties ps := by
  unfold encodeReason
  simp [h]

/-- A reason code and properties, each left out when there is nothing to say. -/
theorem roundTrip_reason (f : UInt8 → List MqttProperty → α) (reasonCode : UInt8)
    (ps : List MqttProperty) :
    RoundTripAll (encodeReason reasonCode ps)
      (get >>= fun self =>
        if self.remaining = 0 then pure (f 0 [])
        else do
          let reasonCode ← readU8
          let properties ← decodeTrailingProperties
          return f reasonCode properties)
      (f reasonCode ps) := by
  by_cases hps : ps = []
  · subst hps
    rw [encodeReason_nil]
    by_cases hr : reasonCode = 0
    · subst hr
      refine ⟨AppendOnly.pure (), fun _ w hw => ReadsAll.get_bind fun c hc => ?_⟩
      obtain ⟨-, rfl⟩ := hw.inj (Emits.pure ())
      rw [if_pos (by rw [remaining_of_at hc]; rfl)]
      exact (Reads.pure _).all
    · rw [if_neg hr]
      refine ⟨appendOnly_writeU8 _, fun _ w hw => ReadsAll.get_bind fun c hc => ?_⟩
      obtain ⟨-, rfl⟩ := hw.inj (emits_extendFromSlice _)
      rw [if_neg (by rw [remaining_of_at hc]; simp)]
      have htail : ReadsAll decodeTrailingProperties [] [] := ReadsAll.get_bind fun c' hc' => by
        rw [if_pos (by rw [remaining_of_at hc']; rfl)]
        exact (Reads.pure []).all
      exact (reads_readU8 reasonCode).bind_all (htail.map rfl)
  · rw [encodeReason_of_ne_nil _ hps]
    refine ⟨(appendOnly_writeU8 _).bind fun _ => appendOnly_writeProperties ps, fun u w hw => ?_⟩
    obtain ⟨_, w₁, w₂, hw₁, hw₂, rfl⟩ :=
      (Emits.bind_iff (appendOnly_writeU8 _) fun _ => appendOnly_writeProperties ps).1 hw
    obtain ⟨-, rfl⟩ := hw₁.inj (emits_extendFromSlice _)
    refine ReadsAll.get_bind fun c hc => ?_
    rw [if_neg (by rw [remaining_of_at hc]; simp)]
    exact (reads_readU8 reasonCode).bind_all ((reads_decodeTrailingProperties hw₂).map rfl)

/-! ## From the packet to the wire and back -/

theorem connectFlags_spec (p : ConnectPacket) :
    connectFlags p &&& 0x01 = 0 ∧
    (connectFlags p &&& 0x80 != 0) = p.username.isSome ∧
    (connectFlags p &&& 0x40 != 0) = p.password.isSome ∧
    (connectFlags p &&& 0x20 != 0) = p.will.any Will.retain ∧
    QoS.fromU8 ((connectFlags p >>> 3) &&& 0x03) = .ok (p.will.elim .atMostOnce Will.qos) ∧
    (connectFlags p &&& 0x04 != 0) = p.will.isSome ∧
    (connectFlags p &&& 0x02 != 0) = p.cleanStart := by
  obtain ⟨cleanStart, keepAlive, properties, clientId, will, username, password⟩ := p
  rcases will with _ | ⟨qos, retain, _, _, _⟩ <;>
    simp only [connectFlags, Option.isSome_none, Option.isSome_some, Option.any_none, Option.any_some,
      Option.elim_none, Option.elim_some]
  · cases cleanStart <;> cases username.isSome <;> cases password.isSome <;> decide
  · cases cleanStart <;> cases username.isSome <;> cases password.isSome <;> cases qos <;>
      cases retain <;> decide

theorem roundTrip_will (will : Option Will) :
    RoundTrip (writeSome will encodeWill)
      (decodeConnect.decodeWill will.isSome (will.elim .atMostOnce Will.qos) (will.any Will.retain))
      will := by
  cases will with
  | none => exact RoundTrip.pure () none
  | some will =>
    refine (roundTrip_properties will.properties).bind ?_
    refine (canonical_utf8String.roundTrip will.topic).bind ?_
    exact (canonical_binaryData.roundTrip will.payload).map rfl

theorem roundTrip_connect (p : ConnectPacket) :
    RoundTripAll (encodeConnect p) decodeConnect p := by
  obtain ⟨hreserved, husername, hpassword, hretain, hqos, hwill, hclean⟩ := connectFlags_spec p
  refine RoundTripAll.write_lifted fun _ hcheck => ?_
  have hcheck := failIf_eq_ok.1 hcheck
  refine (canonical_utf8String.roundTrip "MQTT").bind_all ?_
  refine RoundTripAll.read_lifted (failIf_eq_ok.2 (by decide)) ?_
  refine (canonical_u8.roundTrip mqttLevel5).bind_all ?_
  refine RoundTripAll.read_lifted (failIf_eq_ok.2 (by decide)) ?_
  refine (canonical_u8.roundTrip (connectFlags p)).bind_all ?_
  refine RoundTripAll.read_lifted (failIf_eq_ok.2 (by simpa using hreserved)) ?_
  rw [husername, hpassword, hretain, hwill, hclean]
  refine RoundTripAll.read_lifted hqos ?_
  refine RoundTripAll.read_lifted (failIf_eq_ok.2 ?_) ?_
  · cases p.will <;> simp
  refine RoundTripAll.read_lifted (failIf_eq_ok.2 ?_) ?_
  · simpa using hcheck
  refine (canonical_u16.roundTrip p.keepAlive).bind_all ?_
  refine (roundTrip_properties p.properties).bind_all ?_
  refine (canonical_utf8String.roundTrip p.clientId).bind_all ?_
  refine (roundTrip_will p.will).bind_all ?_
  refine (roundTrip_writeSome canonical_utf8String p.username).bind_all ?_
  exact (roundTrip_writeSome canonical_binaryData p.password).all.map rfl

theorem roundTrip_connack (p : ConnAckPacket) :
    RoundTripAll (encodeConnack p) decodeConnack p := by
  have hflags : p.sessionPresent.toUInt8 &&& ~~~0x01 = 0 ∧
      (p.sessionPresent.toUInt8 &&& 0x01 != 0) = p.sessionPresent := by
    cases p.sessionPresent <;> decide
  refine (canonical_u8.roundTrip p.sessionPresent.toUInt8).bind_all ?_
  refine RoundTripAll.read_lifted (failIf_eq_ok.2 (by simpa using hflags.1)) ?_
  rw [hflags.2]
  refine (canonical_u8.roundTrip p.reasonCode).bind_all ?_
  exact (roundTrip_properties p.properties).all.map rfl

theorem publishFlags_spec (p : PublishPacket) :
    (publishFlags p &&& 0x08 != 0) = p.dup ∧
    QoS.fromU8 ((publishFlags p >>> 1) &&& 0x03) = .ok p.qos ∧
    (publishFlags p >>> 1) &&& 0x03 ≠ 3 ∧
    (publishFlags p &&& 0x01 != 0) = p.retain ∧
    publishFlags p < 16 := by
  obtain ⟨dup, qos, retain, _, _, _, _⟩ := p
  cases dup <;> cases qos <;> cases retain <;> simp only [publishFlags] <;> decide

theorem roundTrip_publishBody (p : PublishPacket) :
    RoundTripAll
      (do writeProperties p.properties; extendFromSlice p.payload; return publishFlags p)
      (do return { p with properties := ← readProperties, payload := ← readRemainingBytes }) p := by
  refine (roundTrip_properties p.properties).bind_all ?_
  refine RoundTripAll.write_map ?_ (publishFlags p)
  exact (roundTrip_remainingBytes p.payload).map rfl

theorem roundTrip_publish (p : PublishPacket) :
    RoundTripAll (encodePublish p) (decodePublish (publishFlags p)) p := by
  obtain ⟨hdup, hqos, hbits, hretain, -⟩ := publishFlags_spec p
  refine RoundTripAll.write_lifted fun _ hnone => ?_
  have hnone := failIf_eq_ok.1 hnone
  refine RoundTripAll.write_lifted fun _ hsome => ?_
  have hsome := failIf_eq_ok.1 hsome
  unfold decodePublish
  rw [hdup, hretain]
  refine RoundTripAll.read_lifted hqos ?_
  refine RoundTripAll.read_lifted (failIf_eq_ok.2 hbits) ?_
  have hbody := roundTrip_publishBody p
  obtain ⟨dup, qos, retain, topicName, packetId, properties, payload⟩ := p
  cases packetId with
  | none =>
    obtain rfl : qos = .atMostOnce := by simpa using hsome
    refine (canonical_utf8String.roundTrip topicName).bind_all ?_
    exact (RoundTrip.pure () none).bind_all hbody
  | some packetId =>
    have hq : qos ≠ .atMostOnce := by simpa using hnone
    refine RoundTripAll.write_lifted fun _ hzero => ?_
    have hzero := failIf_eq_ok.1 hzero
    refine (canonical_utf8String.roundTrip topicName).bind_all ?_
    refine RoundTrip.bind_all (a := some packetId) ?_ hbody
    rw [decodePublish.decodePacketId, if_neg hq]
    exact (canonical_u16.roundTrip packetId).map <| by
      rw [ensureNonzeroPacketIdDecode, failIf_eq_ok.2 hzero, Exec.call_ok]

theorem roundTrip_ack (p : AckPacket) : RoundTripAll (encodeAck p) decodeAck p := by
  refine RoundTripAll.write_lifted fun _ hzero => ?_
  have hzero := failIf_eq_ok.1 hzero
  refine (canonical_u16.roundTrip p.packetId).bind_all ?_
  refine RoundTripAll.read_lifted (failIf_eq_ok.2 hzero) ?_
  exact roundTrip_reason (AckPacket.mk p.packetId) p.reasonCode p.properties

theorem roundTrip_disconnect (p : DisconnectPacket) :
    RoundTripAll (encodeDisconnect p) decodeDisconnect p :=
  RoundTripAll.map (roundTrip_reason Prod.mk p.reasonCode p.properties) rfl

theorem roundTrip_auth (p : AuthPacket) : RoundTripAll (encodeAuth p) decodeAuth p :=
  RoundTripAll.map (roundTrip_reason Prod.mk p.reasonCode p.properties) rfl

theorem roundTrip_empty :
    RoundTripAll (pure () : Exec BytesMut Unit) (get >>= fun r => liftM (expectEmpty r)) () := by
  refine ⟨AppendOnly.pure (), fun _ w hw => ReadsAll.get_bind fun c hc => ?_⟩
  obtain ⟨-, rfl⟩ := hw.inj (Emits.pure ())
  have hrem : c.remaining = 0 := remaining_of_at hc
  rw [expectEmpty, failIf_eq_ok.2 (not_not.2 hrem)]
  exact (Reads.pure ()).all

theorem subscriptionOptionsByte_spec (options : SubscriptionOptions)
    (h : ¬options.retainHandling > 2) :
    subscriptionOptionsByte options &&& 0xc0 = 0 ∧
    ((subscriptionOptionsByte options >>> 4) &&& 0x03) = options.retainHandling ∧
    QoS.fromU8 (subscriptionOptionsByte options &&& 0x03) = .ok options.maximumQos ∧
    (subscriptionOptionsByte options &&& 0x04 != 0) = options.noLocal ∧
    (subscriptionOptionsByte options &&& 0x08 != 0) = options.retainAsPublished := by
  obtain ⟨qos, noLocal, retainAsPublished, retainHandling⟩ := options
  have hcases : ∀ b : UInt8, ¬b > 2 → b = 0 ∨ b = 1 ∨ b = 2 := forall_byte (by decide +kernel)
  rcases hcases retainHandling h with rfl | rfl | rfl <;> cases qos <;> cases noLocal <;>
    cases retainAsPublished <;> decide

theorem roundTrip_subscription (s : Subscription) :
    RoundTrip (encodeSubscription s) decodeSubscription s := by
  refine RoundTrip.write_lifted fun _ hcheck => ?_
  have hcheck := failIf_eq_ok.1 hcheck
  obtain ⟨hreserved, hhandling, hqos, hlocal, hretain⟩ := subscriptionOptionsByte_spec _ hcheck
  refine (canonical_utf8String.roundTrip s.topicFilter).bind ?_
  refine (canonical_u8.roundTrip (subscriptionOptionsByte s.options)).map ?_
  have hok : ¬(subscriptionOptionsByte s.options &&& 0xc0 ≠ 0 ∨ s.options.retainHandling = 3) := by
    rintro (h | h)
    · exact h hreserved
    · exact hcheck (by rw [h]; decide)
  simp only [hhandling, hqos, hlocal, hretain]
  rw [failIf_eq_ok.2 hok, Exec.call_ok, Exec.call_ok]

theorem roundTrip_subscribe (p : SubscribePacket) :
    RoundTripAll (encodeSubscribe p) decodeSubscribe p := by
  refine RoundTripAll.write_lifted fun _ hne => ?_
  have hne := failIf_eq_ok.1 hne
  refine RoundTripAll.write_lifted fun _ hzero => ?_
  have hzero := failIf_eq_ok.1 hzero
  refine (canonical_u16.roundTrip p.packetId).bind_all ?_
  refine RoundTripAll.read_lifted (failIf_eq_ok.2 hzero) ?_
  refine (roundTrip_properties p.properties).bind_all ?_
  refine roundTrip_encodeEach roundTrip_subscription (fun _ _ h => nomatch h) p.subscriptions ?_
  rw [failIf_eq_ok.2 hne, Exec.call_ok]

theorem roundTrip_reasonCodes (name : String) (packetId : UInt16) (ps : List MqttProperty)
    (reasonCodes : List UInt8) :
    RoundTripAll (encodeReasonCodes name packetId ps reasonCodes) (decodeReasonCodes name)
      (packetId, ps, reasonCodes) := by
  refine RoundTripAll.write_lifted fun _ hzero => ?_
  have hzero := failIf_eq_ok.1 hzero
  refine RoundTripAll.write_lifted fun _ hne => ?_
  have hne := failIf_eq_ok.1 hne
  refine (canonical_u16.roundTrip packetId).bind_all ?_
  refine RoundTripAll.read_lifted (failIf_eq_ok.2 hzero) ?_
  refine (roundTrip_properties ps).bind_all ?_
  refine (roundTrip_remainingBytes reasonCodes).map ?_
  rw [failIf_eq_ok.2 hne, Exec.call_ok]

theorem roundTrip_suback (p : SubAckPacket) : RoundTripAll (encodeSuback p) decodeSuback p :=
  (roundTrip_reasonCodes "SUBACK" p.packetId p.properties p.reasonCodes).map rfl

theorem roundTrip_unsuback (p : UnsubAckPacket) : RoundTripAll (encodeUnsuback p) decodeUnsuback p :=
  (roundTrip_reasonCodes "UNSUBACK" p.packetId p.properties p.reasonCodes).map rfl

theorem roundTrip_unsubscribe (p : UnsubscribePacket) :
    RoundTripAll (encodeUnsubscribe p) decodeUnsubscribe p := by
  refine RoundTripAll.write_lifted fun _ hne => ?_
  have hne := failIf_eq_ok.1 hne
  refine RoundTripAll.write_lifted fun _ hzero => ?_
  have hzero := failIf_eq_ok.1 hzero
  refine (canonical_u16.roundTrip p.packetId).bind_all ?_
  refine RoundTripAll.read_lifted (failIf_eq_ok.2 hzero) ?_
  refine (roundTrip_properties p.properties).bind_all ?_
  refine roundTrip_encodeEach canonical_utf8String.roundTrip (fun _ _ h => nomatch h)
    p.topicFilters ?_
  rw [failIf_eq_ok.2 hne, Exec.call_ok]

theorem encodePacket_body_eq_ok {encode : Exec BytesMut Unit} :
    encodePacket.body packetType flags encode = .ok (packetType', flags', body) ↔
      encode [] = .ok () body ∧ packetType = packetType' ∧ flags = flags' := by
  rw [encodePacket.body, Except.bind_eq_ok]
  constructor
  · rintro ⟨⟨_, _⟩, hrun, hok⟩
    cases hok
    exact ⟨runOn_eq_ok.1 hrun, rfl, rfl⟩
  · rintro ⟨hrun, rfl, rfl⟩
    exact ⟨_, runOn_of_ok hrun, rfl⟩

/-- A body behind its fixed header. -/
theorem readsAll_packet {encode : Exec BytesMut Unit} {x : Exec Reader α} {a : α}
    (hrt : RoundTripAll encode x a) {k fl : UInt8} (f : α → MqttPacket) (hk : k < 16 ∧ fl < 16)
    (hx : decodePacket k fl = do expectFlags k fl fl; return f (← x))
    (h : encodePacket.body k fl encode = .ok (packetType, flags, body)) :
    packetType < 16 ∧ flags < 16 ∧ ReadsAll (decodePacket packetType flags) body (f a) := by
  obtain ⟨hw, rfl, rfl⟩ := encodePacket_body_eq_ok.1 h
  refine ⟨hk.1, hk.2, ?_⟩
  rw [hx]
  exact ReadsAll.lifted_bind (failIf_eq_ok.2 (not_not.2 rfl)) ((hrt.readsAll hw).map rfl)

theorem encodePublish_flags {p : PublishPacket} (h : encodePublish p d = .ok flags d') :
    flags = publishFlags p := by
  obtain ⟨_, _, _, h⟩ := bind_eq_ok.1 h
  obtain ⟨_, _, _, h⟩ := bind_eq_ok.1 h
  obtain ⟨_, _, _, h⟩ := bind_eq_ok.1 h
  obtain ⟨_, _, _, h⟩ := bind_eq_ok.1 h
  obtain ⟨_, _, _, h⟩ := bind_eq_ok.1 h
  obtain ⟨_, _, _, h⟩ := bind_eq_ok.1 h
  obtain ⟨_, _, _, h⟩ := bind_eq_ok.1 h
  cases h
  rfl

theorem readsAll_publish {p : PublishPacket}
    (h : encodePacket (.publish p) = .ok (packetType, flags, body)) :
    packetType < 16 ∧ flags < 16 ∧ ReadsAll (decodePacket packetType flags) body (.publish p) := by
  obtain ⟨⟨_, _⟩, hrun, hok⟩ := Except.bind_eq_ok.1 h
  cases hok
  have hw := runOn_eq_ok.1 hrun
  obtain rfl := encodePublish_flags hw
  obtain ⟨-, -, -, -, hlt⟩ := publishFlags_spec p
  exact ⟨by decide, hlt, ((roundTrip_publish p).readsAll hw).map rfl⟩

/-- The decoder reads back every packet body that the encoder produces. -/
theorem decodePacket_encodePacket {p : MqttPacket}
    (h : encodePacket p = .ok (packetType, flags, body)) :
    packetType < 16 ∧ flags < 16 ∧ ReadsAll (decodePacket packetType flags) body p := by
  cases p with
  | connect p => exact readsAll_packet (roundTrip_connect p) .connect (by decide) rfl h
  | connAck p => exact readsAll_packet (roundTrip_connack p) .connAck (by decide) rfl h
  | publish p => exact readsAll_publish h
  | pubAck p => exact readsAll_packet (roundTrip_ack p) .pubAck (by decide) rfl h
  | pubRec p => exact readsAll_packet (roundTrip_ack p) .pubRec (by decide) rfl h
  | pubRel p => exact readsAll_packet (roundTrip_ack p) .pubRel (by decide) rfl h
  | pubComp p => exact readsAll_packet (roundTrip_ack p) .pubComp (by decide) rfl h
  | subscribe p => exact readsAll_packet (roundTrip_subscribe p) .subscribe (by decide) rfl h
  | subAck p => exact readsAll_packet (roundTrip_suback p) .subAck (by decide) rfl h
  | unsubscribe p => exact readsAll_packet (roundTrip_unsubscribe p) .unsubscribe (by decide) rfl h
  | unsubAck p => exact readsAll_packet (roundTrip_unsuback p) .unsubAck (by decide) rfl h
  | pingReq => exact readsAll_packet roundTrip_empty (fun _ => .pingReq) (by decide) rfl h
  | pingResp => exact readsAll_packet roundTrip_empty (fun _ => .pingResp) (by decide) rfl h
  | disconnect p => exact readsAll_packet (roundTrip_disconnect p) .disconnect (by decide) rfl h
  | auth p => exact readsAll_packet (roundTrip_auth p) .auth (by decide) rfl h

end RsNetty.Mqtt

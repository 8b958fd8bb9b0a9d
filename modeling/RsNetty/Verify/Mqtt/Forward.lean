import RsNetty.Verify.Mqtt.Codec

/-!
# Forwarding MQTT packets

What the decoder of a packet accepts, the encoder of that packet accepts again, and the encoder
takes no more bytes than the decoder did: the decoder's checks imply the encoder's, and of the
forms a body may take the encoder chooses the shortest.
-/

namespace RsNetty.Mqtt
open EStateM Reader Cursor

/-! ## Parts of a body -/

theorem forwards_writeU8 (h : Emits (writeU8 b) () w) (v : UInt8) : Forwards (writeU8 v) w := by
  obtain ⟨-, rfl⟩ := h.inj (emits_extendFromSlice [b])
  exact ⟨(), [v], emits_extendFromSlice [v], Nat.le_refl _⟩

theorem parses_readIf {wr : α → Exec BytesMut Unit} {x : Exec Reader α} (h : Canonical wr x)
    (flag : Bool) :
    Parses (readIf flag x) fun o w => o.isSome = flag ∧ Forwards (writeSome o wr) w := by
  cases flag with
  | true => exact h.parses.map fun _ _ hw => ⟨rfl, Forwards.of_emits hw⟩
  | false => exact Parses.pure ⟨rfl, Forwards.pure () []⟩

theorem parses_readRemainingBytes :
    Parses readRemainingBytes fun v w => Emits (extendFromSlice v) () w := by
  intro c b v c' hc hv
  have h := hc
  obtain ⟨hpos, rfl⟩ := hc
  rw [readRemainingBytes, get_bind, sliceFrom_ok hpos, Exec.call_ok] at hv
  cases hv
  refine ⟨c.src.drop c.pos, [], (List.append_nil _).symm, ?_, emits_extendFromSlice _⟩
  rw [List.length_drop]
  change Reader.mk c.src c.src.length = Reader.mk c.src (c.pos + (c.src.length - c.pos))
  rw [Nat.add_sub_cancel' hpos]

/-- Repeated items that fill the rest of the body. -/
theorem parses_items {encode : α → Exec BytesMut Unit} {item : Exec Reader α}
    (h : Parses item fun v w => Forwards (encode v) w) {f : List α → Exec Reader β}
    {Q : β → Bytes → Prop} (hf : ∀ vs w, Forwards (encodeEach encode vs) w →
      Parses (f vs) fun v w' => Q v (w ++ w')) :
    Parses (get >>= fun self => whileRemaining item self.remaining >>= f) Q :=
  Parses.get_bind fun _ => (parses_whileRemaining h).bind fun vs _ ⟨_, hw, hws⟩ =>
    hf vs _ (hw ▸ forwards_encodeEach hws)

theorem forwards_encodeReason {reasonCode : UInt8} {ps : List MqttProperty}
    (h₁ : Emits (writeU8 reasonCode) () w₁) (h₂ : ps = [] ∨ Forwards (writeProperties ps) w₂) :
    Forwards (encodeReason reasonCode ps) (w₁ ++ w₂) := by
  by_cases hps : ps = []
  · subst hps
    rw [encodeReason_nil]
    split
    · exact Forwards.pure () _
    · exact (Forwards.of_emits h₁).mono (by simp)
  · rw [encodeReason_of_ne_nil _ hps]
    exact (Forwards.of_emits h₁).bind (h₂.resolve_left hps)

theorem parses_decodeTrailingProperties :
    Parses decodeTrailingProperties fun ps w => ps = [] ∨ Forwards (writeProperties ps) w :=
  Parses.get_bind fun _ => Parses.ite (fun _ => Parses.pure (.inl rfl))
    fun _ => forwards_properties.mono fun _ _ => .inr

theorem parses_reason (f : UInt8 → List MqttProperty → α) :
    Parses
      (get >>= fun self =>
        if self.remaining = 0 then pure (f 0 [])
        else do
          let reasonCode ← readU8
          let properties ← decodeTrailingProperties
          return f reasonCode properties)
      fun v w => ∃ reasonCode ps, v = f reasonCode ps ∧ Forwards (encodeReason reasonCode ps) w := by
  refine Parses.get_bind fun _ => Parses.ite (fun _ => ?_) fun _ => ?_
  · exact Parses.pure ⟨0, [], rfl, by rw [encodeReason_nil, if_pos rfl]; exact Forwards.pure () []⟩
  · refine canonical_u8.parses.bind fun reasonCode _ h₁ => ?_
    exact parses_decodeTrailingProperties.map fun ps _ h₂ =>
      ⟨reasonCode, ps, rfl, forwards_encodeReason h₁ h₂⟩

/-! ## Bodies -/

theorem parses_decodeWill (flag : Bool) (qos : QoS) (retain : Bool) :
    Parses (decodeConnect.decodeWill flag qos retain)
      fun will w => Forwards (writeSome will encodeWill) w := by
  refine Parses.ite (fun _ => ?_) fun _ => Parses.pure (Forwards.pure () [])
  refine forwards_properties.bind fun properties _ h₁ => ?_
  refine canonical_utf8String.forwards.bind fun topic _ h₂ => ?_
  exact canonical_binaryData.forwards.map fun payload _ h₃ => h₁.bind (h₂.bind h₃)

theorem forwards_connect : Parses decodeConnect fun p w => Forwards (encodeConnect p) w := by
  refine canonical_utf8String.forwards.bind fun name _ h₁ => ?_
  refine Parses.lifted_bind fun _ hname => ?_
  obtain rfl := not_not.1 (failIf_eq_ok.1 hname)
  refine canonical_u8.forwards.bind fun level _ h₂ => ?_
  refine Parses.lifted_bind fun _ hlevel => ?_
  obtain rfl := not_not.1 (failIf_eq_ok.1 hlevel)
  refine canonical_u8.parses.bind fun flags _ h₃ => ?_
  refine Parses.lifted_bind fun _ _ => Parses.lifted_bind fun willQos _ => ?_
  refine Parses.lifted_bind fun _ _ => Parses.lifted_bind fun _ hpassword => ?_
  have hpassword := failIf_eq_ok.1 hpassword
  refine canonical_u16.forwards.bind fun keepAlive _ h₄ => ?_
  refine forwards_properties.bind fun properties _ h₅ => ?_
  refine canonical_utf8String.forwards.bind fun clientId _ h₆ => ?_
  refine (parses_decodeWill _ _ _).bind fun will _ h₇ => ?_
  refine (parses_readIf canonical_utf8String _).bind fun username _ ⟨husername, h₈⟩ => ?_
  refine (parses_readIf canonical_binaryData _).map fun password _ ⟨hsome, h₉⟩ => ?_
  refine Forwards.lifted_bind (failIf_eq_ok.2 ?_) ?_
  · rw [hsome, ← Option.not_isSome, husername]
    simpa using hpassword
  · exact h₁.bind (h₂.bind ((forwards_writeU8 h₃ _).bind (h₄.bind (h₅.bind (h₆.bind (h₇.bind
      (h₈.bind h₉)))))))

theorem forwards_connack : Parses decodeConnack fun p w => Forwards (encodeConnack p) w := by
  refine canonical_u8.parses.bind fun flags _ h₁ => Parses.lifted_bind fun _ _ => ?_
  refine canonical_u8.forwards.bind fun reasonCode _ h₂ => ?_
  exact forwards_properties.map fun properties _ h₃ => (forwards_writeU8 h₁ _).bind (h₂.bind h₃)

theorem parses_decodePacketId (qos : QoS) :
    Parses (decodePublish.decodePacketId qos) fun packetId w =>
      (packetId = none ↔ qos = .atMostOnce) ∧ (∀ id ∈ packetId, id ≠ 0) ∧
        Forwards (writeSome packetId writeU16) w := by
  refine Parses.ite (fun hq => Parses.pure ?_) fun hq => ?_
  · exact ⟨iff_of_true rfl hq, by simp, Forwards.pure () []⟩
  · refine canonical_u16.forwards.bind fun packetId _ h => Parses.lifted_bind fun _ hzero => ?_
    refine Parses.pure ⟨iff_of_false (fun h => nomatch h) hq, ?_, by rwa [List.append_nil]⟩
    rintro _ ⟨⟩
    exact failIf_eq_ok.1 hzero

theorem forwards_publish (flags : UInt8) :
    Parses (decodePublish flags) fun p w => Forwards (encodePublish p) w := by
  refine Parses.lifted_bind fun qos _ => Parses.lifted_bind fun _ _ => ?_
  refine canonical_utf8String.forwards.bind fun topicName _ h₁ => ?_
  refine (parses_decodePacketId qos).bind fun packetId _ ⟨hnone, hzero, h₂⟩ => ?_
  refine forwards_properties.bind fun properties _ h₃ => ?_
  refine parses_readRemainingBytes.map fun payload w₄ h₄ => ?_
  refine Forwards.lifted_bind (failIf_eq_ok.2 ?_) (Forwards.lifted_bind (failIf_eq_ok.2 ?_) ?_)
  · rintro ⟨hq, hsome⟩
    rw [hnone.2 hq] at hsome
    exact nomatch hsome
  · rintro ⟨hq, hisNone⟩
    exact hq (hnone.1 (Option.isNone_iff_eq_none.1 hisNone))
  · have hid : Emits
        (writeSome packetId fun packetId => liftM (ensureNonzeroPacketIdEncode packetId)) () [] := by
      cases packetId with
      | none => exact Emits.pure ()
      | some id =>
        intro d
        rw [writeSome, ensureNonzeroPacketIdEncode, failIf_eq_ok.2 (hzero id rfl), List.append_nil]
        rfl
    have hpayload := (Forwards.of_emits h₄).bind (Forwards.pure (publishFlags
      ⟨flags &&& 0x08 != 0, qos, flags &&& 0x01 != 0, topicName, packetId, properties, payload⟩) [])
    rw [List.append_nil] at hpayload
    exact (Forwards.of_emits hid).bind (h₁.bind (h₂.bind (h₃.bind hpayload)))

theorem forwards_ack : Parses decodeAck fun p w => Forwards (encodeAck p) w := by
  refine canonical_u16.forwards.bind fun packetId _ h₁ => Parses.lifted_bind fun _ hzero => ?_
  refine (parses_reason (AckPacket.mk packetId)).mono ?_
  rintro _ _ ⟨reasonCode, ps, rfl, h₂⟩
  exact Forwards.lifted_bind (failIf_eq_ok.2 (failIf_eq_ok.1 hzero)) (h₁.bind h₂)

theorem forwards_subscription :
    Parses decodeSubscription fun s w => Forwards (encodeSubscription s) w := by
  have hhandling : ∀ b : UInt8, (b >>> 4) &&& 0x03 ≠ 3 → ¬(b >>> 4) &&& 0x03 > 2 :=
    forall_byte (by decide +kernel)
  refine canonical_utf8String.forwards.bind fun topicFilter _ h₁ => ?_
  refine canonical_u8.parses.bind fun options _ h₂ => ?_
  refine Parses.lifted_bind fun _ hcheck => Parses.lifted_bind fun maximumQos _ => Parses.pure ?_
  have hcheck := failIf_eq_ok.1 hcheck
  rw [List.append_nil]
  exact Forwards.lifted_bind
    (failIf_eq_ok.2 (hhandling options fun h => hcheck (.inr h))) (h₁.bind (forwards_writeU8 h₂ _))

theorem forwards_subscribe : Parses decodeSubscribe fun p w => Forwards (encodeSubscribe p) w := by
  refine canonical_u16.forwards.bind fun packetId _ h₁ => Parses.lifted_bind fun _ hzero => ?_
  refine forwards_properties.bind fun properties _ h₂ => ?_
  refine parses_items forwards_subscription fun subscriptions _ h₃ => ?_
  refine Parses.lifted_bind fun _ hne => Parses.pure ?_
  rw [List.append_nil]
  exact Forwards.lifted_bind (failIf_eq_ok.2 (failIf_eq_ok.1 hne)) <|
    Forwards.lifted_bind (failIf_eq_ok.2 (failIf_eq_ok.1 hzero)) (h₁.bind (h₂.bind h₃))

theorem forwards_unsubscribe :
    Parses decodeUnsubscribe fun p w => Forwards (encodeUnsubscribe p) w := by
  refine canonical_u16.forwards.bind fun packetId _ h₁ => Parses.lifted_bind fun _ hzero => ?_
  refine forwards_properties.bind fun properties _ h₂ => ?_
  refine parses_items canonical_utf8String.forwards fun topicFilters _ h₃ => ?_
  refine Parses.lifted_bind fun _ hne => Parses.pure ?_
  rw [List.append_nil]
  exact Forwards.lifted_bind (failIf_eq_ok.2 (failIf_eq_ok.1 hne)) <|
    Forwards.lifted_bind (failIf_eq_ok.2 (failIf_eq_ok.1 hzero)) (h₁.bind (h₂.bind h₃))

theorem forwards_reasonCodes (name : String) :
    Parses (decodeReasonCodes name) fun (packetId, ps, reasonCodes) w =>
      Forwards (encodeReasonCodes name packetId ps reasonCodes) w := by
  refine canonical_u16.forwards.bind fun packetId _ h₁ => Parses.lifted_bind fun _ hzero => ?_
  refine forwards_properties.bind fun properties _ h₂ => ?_
  refine parses_readRemainingBytes.bind fun reasonCodes _ h₃ => ?_
  refine Parses.lifted_bind fun _ hne => Parses.pure ?_
  rw [List.append_nil]
  exact Forwards.lifted_bind (failIf_eq_ok.2 (failIf_eq_ok.1 hzero)) <|
    Forwards.lifted_bind (failIf_eq_ok.2 (failIf_eq_ok.1 hne))
      (h₁.bind (h₂.bind (Forwards.of_emits h₃)))

theorem forwards_suback : Parses decodeSuback fun p w => Forwards (encodeSuback p) w :=
  (forwards_reasonCodes "SUBACK").map fun _ _ h => h

theorem forwards_unsuback : Parses decodeUnsuback fun p w => Forwards (encodeUnsuback p) w :=
  (forwards_reasonCodes "UNSUBACK").map fun _ _ h => h

theorem parses_decodeReason :
    Parses decodeReason fun v w => Forwards (encodeReason v.1 v.2) w := by
  refine (parses_reason Prod.mk).mono ?_
  rintro _ _ ⟨reasonCode, ps, rfl, h⟩
  exact h

theorem forwards_disconnect : Parses decodeDisconnect fun p w => Forwards (encodeDisconnect p) w :=
  parses_decodeReason.map fun _ _ h => h

theorem forwards_auth : Parses decodeAuth fun p w => Forwards (encodeAuth p) w :=
  parses_decodeReason.map fun _ _ h => h

/-! ## Packets -/

/-- The encoder writes the packet again, in no more room. -/
def ForwardsPacket (p : MqttPacket) (w : Bytes) : Prop :=
  ∃ packetType flags body, encodePacket p = .ok (packetType, flags, body) ∧ body.length ≤ w.length

theorem forwards_body {encode : Exec BytesMut Unit} (h : Forwards encode w) (k fl : UInt8) :
    ∃ packetType flags body, encodePacket.body k fl encode = .ok (packetType, flags, body) ∧
      body.length ≤ w.length := by
  obtain ⟨_, body, hbody, hle⟩ := h
  exact ⟨k, fl, body, encodePacket_body_eq_ok.2 ⟨hbody [], rfl, rfl⟩, hle⟩

theorem forwards_packet {encode : α → Exec BytesMut Unit} {x : Exec Reader α}
    (h : Parses x fun v w => Forwards (encode v) w) {f : α → MqttPacket} {k fl fl' : UInt8}
    (hf : ∀ v, encodePacket (f v) = encodePacket.body k fl (encode v)) :
    Parses (do expectFlags k fl' fl; return f (← x) : Exec Reader MqttPacket) ForwardsPacket :=
  Parses.lifted_bind fun _ _ => h.map fun v _ hv => by
    unfold ForwardsPacket
    rw [hf]
    exact forwards_body hv k fl

theorem parses_expectEmpty :
    Parses (do expectEmpty (← get) : Exec Reader Unit) fun _ w =>
      Forwards (pure () : Exec BytesMut Unit) w :=
  Parses.get_bind fun _ => Parses.lifted fun _ _ => Forwards.pure () []

theorem parses_decodePacket (packetType flags : UInt8) :
    Parses (decodePacket packetType flags) ForwardsPacket := by
  unfold decodePacket
  split
  · exact forwards_packet forwards_connect fun _ => rfl
  · exact forwards_packet forwards_connack fun _ => rfl
  · refine (forwards_publish flags).map fun p _ ⟨fl, body, hbody, hle⟩ => ?_
    exact ⟨3, fl, body, Except.bind_eq_ok.2 ⟨_, runOn_of_ok (hbody []), rfl⟩, hle⟩
  · exact forwards_packet forwards_ack fun _ => rfl
  · exact forwards_packet forwards_ack fun _ => rfl
  · exact forwards_packet forwards_ack fun _ => rfl
  · exact forwards_packet forwards_ack fun _ => rfl
  · exact forwards_packet forwards_subscribe fun _ => rfl
  · exact forwards_packet forwards_suback fun _ => rfl
  · exact forwards_packet forwards_unsubscribe fun _ => rfl
  · exact forwards_packet forwards_unsuback fun _ => rfl
  · exact forwards_packet (f := fun _ => .pingReq) parses_expectEmpty fun _ => rfl
  · exact forwards_packet (f := fun _ => .pingResp) parses_expectEmpty fun _ => rfl
  · exact forwards_packet forwards_disconnect fun _ => rfl
  · exact forwards_packet forwards_auth fun _ => rfl
  · exact Parses.throw _

end RsNetty.Mqtt

import RsNetty.Codec.Mqtt.Property
import RsNetty.Verify.Mqtt.Wire
import Mathlib.Data.List.Forall2

/-!
# MQTT property blocks

`PropertyField p w` describes the bytes `w` the decoder accepts as the property `p`. They are what
the encoder writes for `p` (`PropertyField.of_emits`, `PropertyField.emits`), except that the
identifier may be any of the numbers with the same low eight bits.
-/

namespace RsNetty.Mqtt
open EStateM Reader Cursor

/-! ## Sequences of writes -/

theorem appendOnly_encodeEach {encode : α → Exec BytesMut Unit} (h : ∀ v, AppendOnly (encode v))
    (vs : List α) : AppendOnly (encodeEach encode vs) := by
  induction vs with
  | nil => exact AppendOnly.pure ()
  | cons v vs ih => exact (h v).bind fun _ => ih

theorem encodeEach_emits {encode : α → Exec BytesMut Unit} (ha : ∀ v, AppendOnly (encode v))
    {vs : List α} (h : Emits (encodeEach encode vs) () w) :
    ∃ ws : List Bytes, w = ws.flatten ∧ List.Forall₂ (fun v w => Emits (encode v) () w) vs ws := by
  induction vs generalizing w with
  | nil =>
    obtain ⟨-, rfl⟩ := h.inj (Emits.pure ())
    exact ⟨[], rfl, .nil⟩
  | cons v vs ih =>
    obtain ⟨_, w₁, w₂, h₁, h₂, rfl⟩ :=
      (Emits.bind_iff (ha v) fun _ => appendOnly_encodeEach ha vs).1 h
    obtain ⟨ws, rfl, hws⟩ := ih h₂
    exact ⟨w₁ :: ws, rfl, .cons h₁ hws⟩

theorem forwards_encodeEach {encode : α → Exec BytesMut Unit} {vs : List α} {ws : List Bytes}
    (h : List.Forall₂ (fun v w => Forwards (encode v) w) vs ws) :
    Forwards (encodeEach encode vs) ws.flatten := by
  induction h with
  | nil => exact Forwards.of_emits (Emits.pure ())
  | cons hw _ ih => exact hw.bind ih

/-! ## One property -/

/-- The identifiers of the properties. -/
def propertyIds : List UInt8 :=
  [0x01, 0x02, 0x03, 0x08, 0x09, 0x0b, 0x11, 0x12, 0x13, 0x15, 0x16, 0x17, 0x18, 0x19, 0x1a, 0x1c,
    0x1f, 0x21, 0x22, 0x23, 0x24, 0x25, 0x26, 0x27, 0x28, 0x29, 0x2a]

/-- An identifier below 128 is one byte. -/
theorem emits_identifier {id : UInt32} (h : id.toNat < 128) :
    Emits (writeVariableInteger id) () [id.toUInt8] := by
  have hb : id.toUInt8 = UInt8.ofNat id.toNat := UInt8.toNat.inj (by simp)
  rw [hb, ← Varint.encode_of_lt h]
  exact emits_writeVariableInteger (by rw [maxRemainingLength]; omega)

/-- What the encoder writes of a property with the single field `v`. -/
theorem field_emits {wr : α → Exec BytesMut Unit} {x : Exec Reader α} {id : UInt32}
    (f : α → MqttProperty) (v : α) (h : Canonical wr x)
    (hw : Emits (writeVariableInteger id >>= fun _ => wr v) () w)
    (hid : id.toNat < 128 ∧ id.toUInt8 ∈ propertyIds)
    (hx : decodePropertyValue id.toUInt8 = x >>= fun v => pure (f v)) :
    ∃ k ∈ propertyIds, ∃ value, w = k :: value ∧ Reads (decodePropertyValue k) value (f v) := by
  obtain ⟨_, w₁, value, h₁, h₂, rfl⟩ :=
    (Emits.bind_iff (appendOnly_writeVariableInteger id) fun _ => h.appendOnly v).1 hw
  obtain ⟨-, rfl⟩ := h₁.inj (emits_identifier hid.1)
  exact ⟨id.toUInt8, hid.2, value, rfl, hx ▸ (h.reads h₂).map rfl⟩

/-- What the decoder accepts as the single field of a property. -/
theorem parses_field {wr : α → Exec BytesMut Unit} {x : Exec Reader α} {id : UInt8}
    {f : α → MqttProperty} (h : Canonical wr x) (hid : id.toNat < 128)
    (he : ∀ v, encodeProperty (f v) = writeVariableInteger id.toUInt32 >>= fun _ => wr v) :
    Parses (x >>= fun v => pure (f v)) fun p w => Emits (encodeProperty p) () (id :: w) :=
  h.parses.map fun v w hw => by
    have hid' : Emits (writeVariableInteger id.toUInt32) () [id] := by
      have h8 : Emits (writeVariableInteger id.toUInt32) () [id.toUInt32.toUInt8] :=
        emits_identifier (by simpa using hid)
      rwa [UInt8.toUInt8_toUInt32] at h8
    rw [he v]
    exact hid'.bind hw

theorem canonical_userProperty :
    Canonical (fun kv : String × String => do writeUtf8String kv.1; writeUtf8String kv.2)
      (do return (← readUtf8String, ← readUtf8String)) where
  appendOnly _ := (appendOnly_writeUtf8String _).bind fun _ => appendOnly_writeUtf8String _
  reads h := by
    obtain ⟨_, w₁, w₂, h₁, h₂, rfl⟩ := (Emits.bind_iff (appendOnly_writeUtf8String _)
      fun _ => appendOnly_writeUtf8String _).1 h
    exact (canonical_utf8String.reads h₁).bind ((canonical_utf8String.reads h₂).map rfl)
  parses := canonical_utf8String.parses.bind fun _ _ h₁ =>
    canonical_utf8String.parses.map fun _ _ h₂ => h₁.bind h₂

theorem decodePropertyValue_userProperty :
    decodePropertyValue 0x26 =
      (do return (← readUtf8String, ← readUtf8String)) >>= fun kv =>
        pure (MqttProperty.userProperty kv.1 kv.2) := by
  simp only [decodePropertyValue, bind_assoc, pure_bind]

theorem encodeProperty_emits {p : MqttProperty} (h : Emits (encodeProperty p) () w) :
    ∃ k ∈ propertyIds, ∃ value, w = k :: value ∧ Reads (decodePropertyValue k) value p := by
  cases p with
  | payloadFormatIndicator | requestProblemInformation | requestResponseInformation | maximumQoS
  | retainAvailable | wildcardSubscriptionAvailable | subscriptionIdentifierAvailable
  | sharedSubscriptionAvailable => exact field_emits _ _ canonical_u8 h (by decide) rfl
  | serverKeepAlive | receiveMaximum | topicAliasMaximum | topicAlias =>
    exact field_emits _ _ canonical_u16 h (by decide) rfl
  | messageExpiryInterval | sessionExpiryInterval | willDelayInterval | maximumPacketSize =>
    exact field_emits _ _ canonical_u32 h (by decide) rfl
  | subscriptionIdentifier => exact field_emits _ _ canonical_variableInteger h (by decide) rfl
  | contentType | responseTopic | assignedClientIdentifier | authenticationMethod
  | responseInformation | serverReference | reasonString =>
    exact field_emits _ _ canonical_utf8String h (by decide) rfl
  | correlationData | authenticationData =>
    exact field_emits _ _ canonical_binaryData h (by decide) rfl
  | userProperty key value =>
    exact field_emits (fun kv : String × String => .userProperty kv.1 kv.2) (key, value)
      canonical_userProperty h (by decide) decodePropertyValue_userProperty

theorem parses_userProperty :
    Parses (decodePropertyValue 0x26) fun p w => Emits (encodeProperty p) () (0x26 :: w) := by
  rw [decodePropertyValue_userProperty]
  exact parses_field canonical_userProperty (by decide) fun _ => rfl

theorem parses_decodePropertyValue (id : UInt8) :
    Parses (decodePropertyValue id) fun p w => Emits (encodeProperty p) () (id :: w) := by
  unfold decodePropertyValue
  split
  case h_23 => exact parses_userProperty
  case h_28 => exact Parses.throw _
  all_goals first
    | exact parses_field canonical_u8 (by decide) fun _ => rfl
    | exact parses_field canonical_u16 (by decide) fun _ => rfl
    | exact parses_field canonical_u32 (by decide) fun _ => rfl
    | exact parses_field canonical_variableInteger (by decide) fun _ => rfl
    | exact parses_field canonical_utf8String (by decide) fun _ => rfl
    | exact parses_field canonical_binaryData (by decide) fun _ => rfl

theorem appendOnly_encodeProperty (p : MqttProperty) : AppendOnly (encodeProperty p) := by
  cases p with
  | userProperty key value =>
    exact (appendOnly_writeVariableInteger _).bind fun _ =>
      canonical_userProperty.appendOnly (key, value)
  | _ =>
    refine (appendOnly_writeVariableInteger _).bind fun _ => ?_
    first
      | exact appendOnly_writeU8 _
      | exact appendOnly_writeU16 _
      | exact appendOnly_writeU32 _
      | exact appendOnly_writeVariableInteger _
      | exact appendOnly_writeUtf8String _
      | exact appendOnly_writeBinaryData _

/-- The bytes of a property: a number with the low bits of the identifier, then the value as the
encoder writes it. -/
def PropertyField (p : MqttProperty) (w : Bytes) : Prop :=
  ∃ (id : UInt32) (value : Bytes), id.toNat ≤ maxRemainingLength ∧
    w = Varint.encode id.toNat ++ value ∧ Emits (encodeProperty p) () (id.toUInt8 :: value)

/-- The identifier takes a single byte. -/
def Narrow (w : Bytes) : Prop := ∀ b ∈ w.head?, b.toNat < 128

theorem parses_decodeProperty : Parses decodeProperty PropertyField :=
  parses_readVariableInteger.bind fun id _ ⟨hid, hw⟩ =>
    (parses_decodePropertyValue id.toUInt8).mono fun _ value hp => ⟨id, value, hid, by rw [hw], hp⟩

namespace PropertyField

theorem reads {p : MqttProperty} (h : PropertyField p w) : Reads decodeProperty w p := by
  obtain ⟨id, value, hid, rfl, hp⟩ := h
  obtain ⟨k, -, value', hk, hr⟩ := encodeProperty_emits hp
  cases hk
  exact (reads_readVariableInteger hid).bind hr

theorem ne_nil {p : MqttProperty} (h : PropertyField p w) : w ≠ [] := by
  obtain ⟨id, value, -, rfl, -⟩ := h
  simp [Varint.encode_ne_nil]

theorem of_emits {p : MqttProperty} (h : Emits (encodeProperty p) () w) : PropertyField p w := by
  obtain ⟨k, hk, value, rfl, -⟩ := encodeProperty_emits h
  have hlt : ∀ k ∈ propertyIds, k.toNat < 128 := by decide +kernel
  refine ⟨k.toUInt32, value, ?_, ?_, by rwa [UInt8.toUInt8_toUInt32]⟩
  · rw [UInt8.toNat_toUInt32, maxRemainingLength]
    have := hlt k hk
    omega
  · rw [UInt8.toNat_toUInt32, Varint.encode_of_lt (hlt k hk), UInt8.ofNat_toNat]
    rfl

/-- The encoder writes the property in no more bytes than it was read from, and in fewer when the
identifier takes more than one. -/
theorem emits {p : MqttProperty} (h : PropertyField p w) :
    ∃ w', Emits (encodeProperty p) () w' ∧
      (Narrow w ∧ w' = w ∨ ¬Narrow w ∧ w'.length < w.length) := by
  obtain ⟨id, value, -, rfl, hp⟩ := h
  refine ⟨id.toUInt8 :: value, hp, ?_⟩
  by_cases hid : id.toNat < 128
  · have hb : id.toUInt8 = UInt8.ofNat id.toNat := UInt8.toNat.inj (by simp)
    rw [Varint.encode_of_lt hid, ← hb]
    refine .inl ⟨?_, rfl⟩
    rintro _ ⟨⟩
    rw [UInt32.toNat_toUInt8]
    omega
  · have hpos := Varint.length_encode_pos (id.toNat / 128)
    rw [Varint.encode_of_ge (Nat.not_lt.1 hid)]
    refine .inr ⟨fun hn => ?_, by simp only [List.length_append, List.length_cons]; omega⟩
    have := hn _ rfl
    rw [UInt8.toNat_ofNat'] at this
    omega

theorem forwards {p : MqttProperty} (h : PropertyField p w) : Forwards (encodeProperty p) w := by
  obtain ⟨w', hw', ⟨-, rfl⟩ | ⟨-, hlt⟩⟩ := h.emits
  · exact ⟨(), w', hw', Nat.le_refl _⟩
  · exact ⟨(), w', hw', Nat.le_of_lt hlt⟩

end PropertyField

/-! ## The block -/

theorem decodeProperties_ok (h : decodeProperties block = .ok ps) :
    ∃ ws : List Bytes, block = ws.flatten ∧ List.Forall₂ PropertyField ps ws := by
  obtain ⟨⟨_, c⟩, hx, h⟩ := Except.bind_eq_ok.1 h
  cases h
  exact (whileRemaining_ok parses_decodeProperty (at_new block) (runOn_eq_ok.1 hx)).2

theorem decodeProperties_flatten {ws : List Bytes} (h : List.Forall₂ PropertyField ps ws)
    (hlen : ws.flatten.length ≤ maxRemainingLength) : decodeProperties ws.flatten = .ok ps := by
  have hitems : List.Forall₂ (fun p w => Reads decodeProperty w p ∧ w ≠ []) ps ws :=
    h.imp fun _ _ hf => ⟨hf.reads, hf.ne_nil⟩
  have hrun := readsAll_whileRemaining hitems (Nat.le_refl _) (Reader.new ws.flatten) hlen (at_new _)
  exact Except.bind_eq_ok.2 ⟨_, runOn_of_ok (by rwa [remaining_of_at (at_new _)]), rfl⟩

/-- The bytes of a property list: the length of a block, and a block of complete properties. -/
def PropertyBlock (ps : List MqttProperty) (w : Bytes) : Prop :=
  ∃ block : Bytes, block.length ≤ maxRemainingLength ∧ w = Varint.encode block.length ++ block ∧
    decodeProperties block = .ok ps

theorem parses_readProperties : Parses readProperties PropertyBlock := by
  refine parses_readVariableInteger.bind fun len _ ⟨hlen, hw⟩ => ?_
  intro c b ps c' hc h
  rw [get_bind] at h
  obtain ⟨stop, hstop, h⟩ := Exec.call_eq_ok.1 h
  obtain ⟨-, rfl⟩ := checkedAdd_eq_some.1 (okOr_eq_ok.1 hstop)
  split at h
  · exact nomatch h
  · obtain ⟨block, hslice, h⟩ := Exec.call_eq_ok.1 h
    obtain ⟨ps', hps, h⟩ := Exec.call_eq_ok.1 h
    cases h
    have hle : len.toNat ≤ b.length := by
      rw [← remaining_of_at hc, remaining]
      omega
    have htake : (b.take len.toNat).length = len.toNat := by rw [List.length_take]; omega
    rw [← List.take_append_drop len.toNat b] at hc
    have hblock := (slice_of_at hc).2
    rw [htake] at hblock
    cases hslice.symm.trans hblock
    refine ⟨b.take len.toNat, b.drop len.toNat, (List.take_append_drop ..).symm, ?_,
      b.take len.toNat, by rwa [htake], by rw [hw, htake], hps⟩
    rw [htake]
    rfl

theorem reads_readProperties (h : PropertyBlock ps w) : Reads readProperties w ps := by
  obtain ⟨block, hlen, rfl, hps⟩ := h
  have hnat : (UInt32.ofNat block.length).toNat = block.length :=
    UInt32.toNat_ofNat_of_lt' (Nat.lt_of_le_of_lt hlen (by decide))
  have hr := reads_readVariableInteger (v := UInt32.ofNat block.length) (by rwa [hnat])
  rw [hnat] at hr
  refine hr.bind fun c r hfit hc => ?_
  obtain ⟨hle, hslice⟩ := slice_of_at hc
  have hadd : checkedAdd c.pos block.length = some (c.pos + block.length) :=
    checkedAdd_of_le (Nat.le_trans hle (Nat.le_trans hfit (by decide)))
  rw [get_bind, hnat, hadd, okOr, Exec.call_ok, if_neg (by omega), hslice, Exec.call_ok, hps,
    Exec.call_ok]
  rfl

theorem appendOnly_writeProperties (ps : List MqttProperty) : AppendOnly (writeProperties ps) :=
  (AppendOnly.lifted _).bind fun _ => (appendOnly_writeVariableInteger _).bind fun _ =>
    AppendOnly.append _

theorem emits_writeProperties (h : Emits (encodeEach encodeProperty ps) () block)
    (hlen : block.length ≤ maxRemainingLength) :
    Emits (writeProperties ps) () (Varint.encode block.length ++ block) := by
  have hnat : (UInt32.ofNat block.length).toNat = block.length :=
    UInt32.toNat_ofNat_of_lt' (Nat.lt_of_le_of_lt hlen (by decide))
  have hlenBytes := emits_writeVariableInteger (v := UInt32.ofNat block.length) (by rwa [hnat])
  rw [hnat] at hlenBytes
  refine Emits.lifted_bind (a := ((), block)) (runOn_of_ok (h [])) ?_
  exact hlenBytes.bind (emits_extendFromSlice block)

theorem writeProperties_emits (h : Emits (writeProperties ps) () w)
    (hlen : w.length ≤ maxRemainingLength) :
    ∃ block, Emits (encodeEach encodeProperty ps) () block ∧ block.length ≤ maxRemainingLength ∧
      w = Varint.encode block.length ++ block := by
  obtain ⟨⟨_, block⟩, hrun, hrest⟩ := Exec.call_eq_ok.1 (h [])
  obtain ⟨block, hblock, rfl⟩ :=
    (appendOnly_encodeEach appendOnly_encodeProperty ps).ok_iff.1 (runOn_eq_ok.1 hrun)
  obtain ⟨_, numeral, _, hextend⟩ := bind_eq_ok.1 hrest
  have hw : numeral ++ block = w := by
    injection hextend
  have hle : block.length ≤ maxRemainingLength := by
    rw [← hw, List.length_append] at hlen
    omega
  exact ⟨block, hblock, hle, (h.inj (emits_writeProperties hblock hle)).2⟩

theorem propertyBlock_of_emits (h : Emits (writeProperties ps) () w)
    (hlen : w.length ≤ maxRemainingLength) : PropertyBlock ps w := by
  obtain ⟨block, hblock, hle, rfl⟩ := writeProperties_emits h hlen
  obtain ⟨ws, rfl, hws⟩ := encodeEach_emits appendOnly_encodeProperty hblock
  exact ⟨ws.flatten, hle, rfl,
    decodeProperties_flatten (hws.imp fun _ _ => PropertyField.of_emits) hle⟩

theorem roundTrip_properties (ps : List MqttProperty) :
    RoundTrip (writeProperties ps) readProperties ps := by
  refine ⟨appendOnly_writeProperties ps, fun _ w hw c r hfit hc => ?_⟩
  have hlen : w.length ≤ maxRemainingLength :=
    Nat.le_trans (Nat.le_trans (Nat.le_add_left ..) (slice_of_at hc).1) hfit
  exact reads_readProperties (propertyBlock_of_emits hw hlen) c r hfit hc

theorem forwards_properties :
    Parses readProperties fun ps w => Forwards (writeProperties ps) w := by
  refine parses_readProperties.mono ?_
  rintro ps w ⟨block, hlen, rfl, hps⟩
  obtain ⟨ws, rfl, hws⟩ := decodeProperties_ok hps
  obtain ⟨_, block', hblock', hle⟩ :=
    forwards_encodeEach (hws.imp fun _ _ => PropertyField.forwards)
  refine ⟨_, _, emits_writeProperties hblock' (Nat.le_trans hle hlen), ?_⟩
  have := Varint.length_encode_mono hle
  simp only [List.length_append]
  omega

/-! ## Canonical blocks -/

/-- A property starts at offset `i`: what comes before is a sequence of complete properties. -/
def StartsProperty (block : Bytes) (i : Nat) : Prop :=
  i < block.length ∧ ∃ ps, decodeProperties (block.take i) = .ok ps

/-- Every property identifier of the block takes a single byte. -/
def NarrowIdentifiers (block : Bytes) : Prop :=
  ∀ i, StartsProperty block i → ∀ b ∈ block[i]?, b.toNat < 128

/-- What a reader has consumed between two positions. -/
def consumed (r r' : Reader) : Bytes := (r.src.drop r.pos).take (r'.pos - r.pos)

/-- What comes after a numeral. -/
def behindNumeral : Bytes → Bytes
  | [] => []
  | b :: bs => if b.toNat < 128 then bs else behindNumeral bs

theorem behindNumeral_append {w : Bytes} (hw : Varint.Terminated w) (block : Bytes) :
    behindNumeral (w ++ block) = block := by
  induction w with
  | nil => exact hw.elim
  | cons b bs ih =>
    rw [List.cons_append, behindNumeral]
    obtain _ | ⟨c, cs⟩ := bs
    · exact if_pos hw
    · rw [if_neg (Nat.not_lt.2 hw.1)]
      exact ih hw.2

theorem consumed_skip {c : Reader} (hc : At c (w ++ r)) : consumed c (skip c w.length) = w := by
  have hpos : (skip c w.length).pos - c.pos = w.length := Nat.add_sub_cancel_left ..
  rw [consumed, hpos, hc.2, List.take_left]

/-- A block is cut into properties in one way only. -/
theorem PropertyField.cut {us ws : List Bytes} (hus : List.Forall₂ PropertyField qs us)
    (hws : List.Forall₂ PropertyField ps ws) (h : us.flatten ++ rest = ws.flatten)
    (hlen : ws.flatten.length ≤ maxRemainingLength) : ∃ vs, ws = us ++ vs := by
  induction hus generalizing ps ws with
  | nil => exact ⟨ws, rfl⟩
  | @cons q u qs us hu _ ih =>
    cases hws with
    | nil => exact absurd (List.append_eq_nil_iff.1 (List.append_eq_nil_iff.1 h).1).1 hu.ne_nil
    | @cons p w ps ws hw hws =>
      rw [List.flatten_cons, List.flatten_cons, List.append_assoc] at h
      have hat := at_new (w ++ ws.flatten)
      have hread := hw.reads _ _ hlen hat
      rw [← h] at hat hread
      have hread' := hu.reads _ _ (by rw [h]; exact hlen) hat
      have hsame := hread'.symm.trans hread
      have hpos : u.length = w.length := by
        have := congrArg (fun r => (Result.final r).pos) hsame
        simpa [Result.final, skip, Reader.new] using this
      obtain ⟨rfl, hrest⟩ := List.append_inj h hpos
      rw [List.flatten_cons, List.length_append] at hlen
      obtain ⟨vs, rfl⟩ := ih hws hrest (by omega)
      exact ⟨vs, rfl⟩

/-- The properties of a block start where its fields do. -/
theorem startsProperty_iff {ws : List Bytes} (hws : List.Forall₂ PropertyField ps ws)
    (hlen : ws.flatten.length ≤ maxRemainingLength) :
    StartsProperty ws.flatten i ↔
      ∃ us w vs, ws = us ++ w :: vs ∧ i = us.flatten.length := by
  constructor
  · rintro ⟨hi, qs, hqs⟩
    obtain ⟨us, htake, hus⟩ := decodeProperties_ok hqs
    have hcut : us.flatten ++ ws.flatten.drop i = ws.flatten := by
      rw [← htake, List.take_append_drop]
    obtain ⟨_ | ⟨w, vs⟩, rfl⟩ := PropertyField.cut hus hws hcut hlen
    · have := congrArg List.length htake
      rw [List.append_nil] at hi this
      rw [List.length_take] at this
      omega
    · refine ⟨us, w, vs, rfl, ?_⟩
      rw [← htake, List.length_take]
      omega
  · rintro ⟨us, w, vs, rfl, rfl⟩
    have hus := List.forall₂_take_append _ us (w :: vs) hws
    obtain ⟨p, _, hw, -⟩ :=
      List.forall₂_cons_right_iff.1 (List.forall₂_drop_append _ us (w :: vs) hws)
    have hpos := List.length_pos_iff.2 hw.ne_nil
    rw [List.flatten_append, List.flatten_cons, List.length_append, List.length_append] at hlen
    refine ⟨?_, ps.take us.length, ?_⟩
    · rw [List.flatten_append, List.flatten_cons, List.length_append, List.length_append]
      omega
    · rw [List.flatten_append, List.take_left]
      exact decodeProperties_flatten hus (by omega)

/-- What is written for the properties of a block is the block, unless an identifier is wide, when
it is shorter. -/
theorem encodeEach_propertyField {ws : List Bytes} (hws : List.Forall₂ PropertyField ps ws) :
    ∃ block, Emits (encodeEach encodeProperty ps) () block ∧
      ((∀ w ∈ ws, Narrow w) ∧ block = ws.flatten ∨
        (¬∀ w ∈ ws, Narrow w) ∧ block.length < ws.flatten.length) := by
  induction hws with
  | nil => exact ⟨[], Emits.pure (), .inl ⟨by simp, rfl⟩⟩
  | @cons p w ps ws hw _ ih =>
    obtain ⟨block, hblock, ih⟩ := ih
    obtain ⟨w', hw', h⟩ := hw.emits
    refine ⟨w' ++ block, hw'.bind hblock, ?_⟩
    simp only [List.forall_mem_cons, List.flatten_cons, List.length_append]
    rcases h with ⟨hn, rfl⟩ | ⟨hn, hlt⟩ <;> rcases ih with ⟨hns, rfl⟩ | ⟨hns, hlts⟩
    · exact .inl ⟨⟨hn, hns⟩, rfl⟩
    · exact .inr ⟨fun h => hns h.2, by omega⟩
    · exact .inr ⟨fun h => hn h.1, by omega⟩
    · exact .inr ⟨fun h => hn h.1, by omega⟩

theorem narrowIdentifiers_iff {ws : List Bytes} (hws : List.Forall₂ PropertyField ps ws)
    (hlen : ws.flatten.length ≤ maxRemainingLength) :
    NarrowIdentifiers ws.flatten ↔ ∀ w ∈ ws, Narrow w := by
  have hhead {us : List Bytes} {w : Bytes} {vs : List Bytes} (h : ws = us ++ w :: vs) :
      ws.flatten[us.flatten.length]? = w.head? := by
    subst h
    obtain ⟨p, _, hw, -⟩ :=
      List.forall₂_cons_right_iff.1 (List.forall₂_drop_append _ us (w :: vs) hws)
    obtain ⟨b, bs, rfl⟩ := List.exists_cons_of_ne_nil hw.ne_nil
    simp
  constructor
  · intro h w hw
    obtain ⟨us, vs, hsplit⟩ := List.append_of_mem hw
    have := h _ ((startsProperty_iff hws hlen).2 ⟨us, w, vs, hsplit, rfl⟩)
    rwa [hhead hsplit] at this
  · intro h i hi
    obtain ⟨us, w, vs, hsplit, rfl⟩ := (startsProperty_iff hws hlen).1 hi
    rw [hhead hsplit]
    exact h w (by rw [hsplit]; simp)

/-- A reader that reads a numeral is in range. -/
theorem at_of_readVariableInteger (h : readVariableInteger r = .ok v r') :
    At r (r.src.drop r.pos) := by
  refine ⟨Nat.le_of_not_lt fun hlt => ?_, rfl⟩
  obtain ⟨_, _, hb, -⟩ := bind_eq_ok.1 h
  obtain ⟨_, _, hb, -⟩ := bind_eq_ok.1 hb
  rw [readExact, get_bind, if_pos (by rw [remaining]; omega)] at hb
  cases hb

/-- The low byte of an accepted identifier is one of the 27. -/
theorem identifier_mem {id : UInt32} (h : decodeProperty r = .ok p r')
    (hid : readVariableInteger r = .ok id s) : id.toUInt8 ∈ propertyIds := by
  have hat := at_of_readVariableInteger hid
  obtain ⟨w, rest, hb, rfl, -⟩ := parses_readVariableInteger r _ id s hat hid
  rw [hb] at hat
  rw [decodeProperty, bind_of_ok hid] at h
  obtain ⟨value, _, -, -, hp⟩ := parses_decodePropertyValue id.toUInt8 _ _ p r' (at_skip hat) h
  obtain ⟨k, hk, _, hcons, -⟩ := encodeProperty_emits hp
  cases hcons
  exact hk

/-- A property list is written back as it was read exactly when every identifier of its block takes
a single byte, and of the identifiers that `decodeProperty` accepts those below 256 are among the
27 of the encoder. -/
theorem writeProperties_readProperties_iff {r r' : Reader} {ps : List MqttProperty}
    (h : readProperties r = .ok ps r') :
    ((∀ d, writeProperties ps d = .ok () (d ++ consumed r r')) ↔
      NarrowIdentifiers (behindNumeral (consumed r r'))) ∧
    ∀ q p q' id s, decodeProperty q = .ok p q' → readVariableInteger q = .ok id s →
      (id ∈ propertyIds.map UInt8.toUInt32 ↔ id.toNat < 256) := by
  refine ⟨?_, fun q p q' id s h hid => ?_⟩
  · obtain ⟨_, _, hnum, -⟩ := bind_eq_ok.1 h
    have hat := at_of_readVariableInteger hnum
    obtain ⟨c, rest, hb, rfl, block, hlen, rfl, hps⟩ := parses_readProperties r _ ps r' hat h
    obtain ⟨ws, rfl, hws⟩ := decodeProperties_ok hps
    obtain ⟨block', hblock', hcase⟩ := encodeEach_propertyField hws
    rw [hb] at hat
    rw [consumed_skip hat, behindNumeral_append (Varint.terminated_encode _),
      narrowIdentifiers_iff hws hlen]
    rcases hcase with ⟨hn, rfl⟩ | ⟨hn, hlt⟩
    · exact iff_of_true (emits_writeProperties hblock' hlen) hn
    · refine iff_of_false (fun hw : Emits _ () _ => ?_) hn
      have hw' := emits_writeProperties hblock' (Nat.le_trans (Nat.le_of_lt hlt) hlen)
      have heq := congrArg List.length (hw'.inj hw).2
      have := Varint.length_encode_mono (Nat.le_of_lt hlt)
      simp only [List.length_append] at heq
      omega
  · have hmem := identifier_mem h hid
    constructor
    · intro hmem'
      obtain ⟨k, -, rfl⟩ := List.mem_map.1 hmem'
      rw [UInt8.toNat_toUInt32]
      exact k.toNat_lt
    · intro hlt
      refine List.mem_map.2 ⟨id.toUInt8, hmem, UInt32.toNat.inj ?_⟩
      rw [UInt8.toNat_toUInt32, UInt32.toNat_toUInt8, Nat.mod_eq_of_lt hlt]

/-- The identifier 257, in two bytes, is taken for the identifier 1. -/
theorem decodeProperty_257 :
    readVariableInteger ⟨[3, 0x81, 0x02, 5], 1⟩ = .ok 257 ⟨[3, 0x81, 0x02, 5], 3⟩ ∧
      decodeProperty ⟨[3, 0x81, 0x02, 5], 1⟩ =
        .ok (.payloadFormatIndicator 5) ⟨[3, 0x81, 0x02, 5], 4⟩ ∧
      readProperties ⟨[3, 0x81, 0x02, 5], 0⟩ =
        .ok [.payloadFormatIndicator 5] ⟨[3, 0x81, 0x02, 5], 4⟩ ∧
      writeProperties [.payloadFormatIndicator 5] [] = .ok () [2, 0x01, 5] :=
  ⟨runOn_eq_ok.1 (by decide +kernel), runOn_eq_ok.1 (by decide +kernel),
    runOn_eq_ok.1 (by decide +kernel), runOn_eq_ok.1 (by decide +kernel)⟩

theorem writeProperties_readProperties_ne :
    (¬∀ r ps r', readProperties r = .ok ps r' →
      ∀ d, writeProperties ps d = .ok () (d ++ consumed r r')) ∧
    ¬∀ r p r' id s, decodeProperty r = .ok p r' → readVariableInteger r = .ok id s →
      id ∈ propertyIds.map UInt8.toUInt32 := by
  obtain ⟨hid, hproperty, hread, hwrite⟩ := decodeProperty_257
  refine ⟨fun h => ?_, fun h => ?_⟩
  · have := hwrite.symm.trans (h _ _ _ hread [])
    revert this
    exact fun h => nomatch h
  · have := h _ _ _ _ _ hproperty hid
    revert this
    decide

theorem writeProperties_readProperties_iff_reasonString :
    (∀ d, writeProperties [.reasonString "a"] d = .ok () (d ++ [4, 0x1f, 0, 1, 0x61])) ↔
      NarrowIdentifiers (behindNumeral [4, 0x1f, 0, 1, 0x61]) := by
  have hread : readProperties ⟨[4, 0x1f, 0, 1, 0x61], 0⟩ =
      .ok [.reasonString "a"] ⟨[4, 0x1f, 0, 1, 0x61], 5⟩ := runOn_eq_ok.1 (by decide +kernel)
  exact (writeProperties_readProperties_iff hread).1

end RsNetty.Mqtt

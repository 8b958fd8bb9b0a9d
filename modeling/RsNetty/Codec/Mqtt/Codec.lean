import RsNetty.Codec.Mqtt.Property

/-!
# `MqttCodec`

The bodies of the fifteen control packets, decoder and encoder side by side, then the framing by
fixed header and Remaining Length.
-/

namespace RsNetty.Mqtt
open EStateM Reader

def mqttLevel5 : UInt8 := 5

/-- `{value:#x}` -/
def hex (value : Nat) : String := "0x" ++ String.ofList (Nat.toDigits 16 value)

def expectFlags (packetType actual expected : UInt8) : Result Unit :=
  failIf (actual ≠ expected) <| .decode <|
    s!"invalid MQTT flags for packet type {packetType}: " ++
      s!"actual={hex actual.toNat}, expected={hex expected.toNat}"

def expectEmpty (reader : Reader) : Result Unit :=
  failIf (reader.remaining ≠ 0)
    (.decode s!"MQTT packet body must be empty, got {reader.remaining} bytes")

def ensureNonzeroPacketIdDecode (packetId : UInt16) : Result Unit :=
  failIf (packetId = 0) (.decode "MQTT packet identifier must be non-zero")

def ensureNonzeroPacketIdEncode (packetId : UInt16) : Result Unit :=
  failIf (packetId = 0) (.encode "MQTT packet identifier must be non-zero")

/-! ## CONNECT -/

/-- `if flag { Some(read()?) } else { None }` -/
def readIf (flag : Bool) (read : Exec Reader α) : Exec Reader (Option α) :=
  if flag then some <$> read else return none

/-- `if let Some(value) = value { write(value, dst)? }` -/
def writeSome (value : Option α) (write : α → Exec BytesMut Unit) : Exec BytesMut Unit :=
  match value with
  | some value => write value
  | none => return ()

def decodeConnect : Exec Reader ConnectPacket := do
  let protocolName ← readUtf8String
  failIf (protocolName ≠ "MQTT") (.decode s!"invalid MQTT protocol name: {protocolName}")
  let protocolLevel ← readU8
  failIf (protocolLevel ≠ mqttLevel5) (.decode s!"unsupported MQTT protocol level: {protocolLevel}")
  let flags ← readU8
  failIf (flags &&& 0x01 ≠ 0) (.decode "MQTT CONNECT reserved flag must be zero")
  let usernameFlag := flags &&& 0x80 != 0
  let passwordFlag := flags &&& 0x40 != 0
  let willRetain := flags &&& 0x20 != 0
  let willQos ← QoS.fromU8 ((flags >>> 3) &&& 0x03)
  let willFlag := flags &&& 0x04 != 0
  let cleanStart := flags &&& 0x02 != 0
  failIf (!willFlag && (willRetain || willQos != .atMostOnce))
    (.decode "MQTT CONNECT will flags set without will flag")
  failIf (passwordFlag && !usernameFlag)
    (.decode "MQTT CONNECT password flag set without username flag")
  let keepAlive ← readU16
  let properties ← readProperties
  let clientId ← readUtf8String
  let will ← decodeWill willFlag willQos willRetain
  let username ← readIf usernameFlag readUtf8String
  let password ← readIf passwordFlag readBinaryData
  return { cleanStart, keepAlive, properties, clientId, will, username, password }
where
  /-- The will fields of the payload. -/
  decodeWill (willFlag : Bool) (qos : QoS) (retain : Bool) : Exec Reader (Option Will) :=
    if willFlag then do
      let properties ← readProperties
      let topic ← readUtf8String
      let payload ← readBinaryData
      return some { qos, retain, properties, topic, payload }
    else return none

/-- The CONNECT flags byte. -/
def connectFlags (packet : ConnectPacket) : UInt8 :=
  let flags : UInt8 := 0
  let flags := if packet.username.isSome then flags ||| 0x80 else flags
  let flags := if packet.password.isSome then flags ||| 0x40 else flags
  let flags := match packet.will with
    | some will =>
      let flags := flags ||| 0x04
      let flags := flags ||| (will.qos.asU8 <<< 3)
      if will.retain then flags ||| 0x20 else flags
    | none => flags
  if packet.cleanStart then flags ||| 0x02 else flags

def encodeWill (will : Will) : Exec BytesMut Unit := do
  writeProperties will.properties
  writeUtf8String will.topic
  writeBinaryData will.payload

def encodeConnect (packet : ConnectPacket) : Exec BytesMut Unit := do
  failIf (packet.password.isSome ∧ packet.username.isNone)
    (.encode "MQTT CONNECT password requires username")
  writeUtf8String "MQTT"
  writeU8 mqttLevel5
  writeU8 (connectFlags packet)
  writeU16 packet.keepAlive
  writeProperties packet.properties
  writeUtf8String packet.clientId
  writeSome packet.will encodeWill
  writeSome packet.username writeUtf8String
  writeSome packet.password writeBinaryData

/-! ## CONNACK -/

def decodeConnack : Exec Reader ConnAckPacket := do
  let flags ← readU8
  failIf (flags &&& ~~~0x01 ≠ 0) (.decode "invalid MQTT CONNACK flags")
  let reasonCode ← readU8
  let properties ← readProperties
  return { sessionPresent := flags &&& 0x01 != 0, reasonCode, properties }

def encodeConnack (packet : ConnAckPacket) : Exec BytesMut Unit := do
  writeU8 packet.sessionPresent.toUInt8
  writeU8 packet.reasonCode
  writeProperties packet.properties

/-! ## PUBLISH -/

def decodePublish (flags : UInt8) : Exec Reader PublishPacket := do
  let dup := flags &&& 0x08 != 0
  let qos ← QoS.fromU8 ((flags >>> 1) &&& 0x03)
  failIf ((flags >>> 1) &&& 0x03 = 3) (.decode "invalid MQTT PUBLISH QoS bits")
  let retain := flags &&& 0x01 != 0
  let topicName ← readUtf8String
  let packetId ← decodePacketId qos
  let properties ← readProperties
  let payload ← readRemainingBytes
  return { dup, qos, retain, topicName, packetId, properties, payload }
where
  /-- The packet identifier, present for QoS 1 and 2. -/
  decodePacketId (qos : QoS) : Exec Reader (Option UInt16) :=
    if qos = .atMostOnce then return none
    else do
      let packetId ← readU16
      ensureNonzeroPacketIdDecode packetId
      return some packetId

/-- The PUBLISH flags of the fixed header. -/
def publishFlags (packet : PublishPacket) : UInt8 :=
  let flags := packet.qos.asU8 <<< 1
  let flags := if packet.dup then flags ||| 0x08 else flags
  if packet.retain then flags ||| 0x01 else flags

def encodePublish (packet : PublishPacket) : Exec BytesMut UInt8 := do
  failIf (packet.qos = .atMostOnce ∧ packet.packetId.isSome)
    (.encode "QoS 0 MQTT PUBLISH must not include packet_id")
  failIf (packet.qos ≠ .atMostOnce ∧ packet.packetId.isNone)
    (.encode "QoS 1/2 MQTT PUBLISH must include packet_id")
  writeSome packet.packetId fun packetId => ensureNonzeroPacketIdEncode packetId
  writeUtf8String packet.topicName
  writeSome packet.packetId writeU16
  writeProperties packet.properties
  extendFromSlice packet.payload
  return publishFlags packet

/-! ## PUBACK, PUBREC, PUBREL, PUBCOMP -/

/-- The properties that end a body, absent when nothing is left. -/
def decodeTrailingProperties : Exec Reader (List MqttProperty) := do
  let self ← get
  if self.remaining = 0 then return [] else readProperties

def decodeAck : Exec Reader AckPacket := do
  let packetId ← readU16
  ensureNonzeroPacketIdDecode packetId
  let self ← get
  if self.remaining = 0 then return AckPacket.new packetId 0
  let reasonCode ← readU8
  let properties ← decodeTrailingProperties
  return { packetId, reasonCode, properties }

/-- The reason code and the properties that end a body, left out as far as they say nothing. -/
def encodeReason (reasonCode : UInt8) (properties : List MqttProperty) : Exec BytesMut Unit := do
  if reasonCode ≠ 0 ∨ properties ≠ [] then writeU8 reasonCode
  if properties ≠ [] then writeProperties properties

def encodeAck (packet : AckPacket) : Exec BytesMut Unit := do
  ensureNonzeroPacketIdEncode packet.packetId
  writeU16 packet.packetId
  encodeReason packet.reasonCode packet.properties

/-! ## SUBSCRIBE -/

def decodeSubscription : Exec Reader Subscription := do
  let topicFilter ← readUtf8String
  let options ← readU8
  let retainHandling := (options >>> 4) &&& 0x03
  failIf (options &&& 0xc0 ≠ 0 ∨ retainHandling = 3) (.decode "invalid MQTT SUBSCRIBE options")
  let maximumQos ← QoS.fromU8 (options &&& 0x03)
  return {
    topicFilter
    options := {
      maximumQos
      noLocal := options &&& 0x04 != 0
      retainAsPublished := options &&& 0x08 != 0
      retainHandling } }

def decodeSubscribe : Exec Reader SubscribePacket := do
  let packetId ← readU16
  ensureNonzeroPacketIdDecode packetId
  let properties ← readProperties
  let subscriptions ← whileRemaining decodeSubscription (← get).remaining
  failIf (subscriptions = []) (.decode "MQTT SUBSCRIBE must include at least one subscription")
  return { packetId, properties, subscriptions }

def subscriptionOptionsByte (options : SubscriptionOptions) : UInt8 :=
  options.maximumQos.asU8 ||| (options.noLocal.toUInt8 <<< 2) |||
    (options.retainAsPublished.toUInt8 <<< 3) ||| (options.retainHandling <<< 4)

def encodeSubscription (subscription : Subscription) : Exec BytesMut Unit := do
  failIf (subscription.options.retainHandling > 2)
    (.encode "invalid MQTT SUBSCRIBE retain handling option")
  writeUtf8String subscription.topicFilter
  writeU8 (subscriptionOptionsByte subscription.options)

def encodeSubscribe (packet : SubscribePacket) : Exec BytesMut Unit := do
  failIf (packet.subscriptions = [])
    (.encode "MQTT SUBSCRIBE must include at least one subscription")
  ensureNonzeroPacketIdEncode packet.packetId
  writeU16 packet.packetId
  writeProperties packet.properties
  encodeEach encodeSubscription packet.subscriptions

/-! ## SUBACK and UNSUBACK -/

/-- A packet identifier, properties, and at least one reason code; `name` is the packet's. -/
def decodeReasonCodes (name : String) : Exec Reader (UInt16 × List MqttProperty × List UInt8) := do
  let packetId ← readU16
  ensureNonzeroPacketIdDecode packetId
  let properties ← readProperties
  let reasonCodes ← readRemainingBytes
  failIf (reasonCodes = []) (.decode s!"MQTT {name} must include at least one reason code")
  return (packetId, properties, reasonCodes)

def encodeReasonCodes (name : String) (packetId : UInt16) (properties : List MqttProperty)
    (reasonCodes : List UInt8) : Exec BytesMut Unit := do
  ensureNonzeroPacketIdEncode packetId
  failIf (reasonCodes = []) (.encode s!"MQTT {name} must include at least one reason code")
  writeU16 packetId
  writeProperties properties
  extendFromSlice reasonCodes

def decodeSuback : Exec Reader SubAckPacket := do
  let (packetId, properties, reasonCodes) ← decodeReasonCodes "SUBACK"
  return { packetId, properties, reasonCodes }

def encodeSuback (packet : SubAckPacket) : Exec BytesMut Unit :=
  encodeReasonCodes "SUBACK" packet.packetId packet.properties packet.reasonCodes

def decodeUnsuback : Exec Reader UnsubAckPacket := do
  let (packetId, properties, reasonCodes) ← decodeReasonCodes "UNSUBACK"
  return { packetId, properties, reasonCodes }

def encodeUnsuback (packet : UnsubAckPacket) : Exec BytesMut Unit :=
  encodeReasonCodes "UNSUBACK" packet.packetId packet.properties packet.reasonCodes

/-! ## UNSUBSCRIBE -/

def decodeUnsubscribe : Exec Reader UnsubscribePacket := do
  let packetId ← readU16
  ensureNonzeroPacketIdDecode packetId
  let properties ← readProperties
  let topicFilters ← whileRemaining readUtf8String (← get).remaining
  failIf (topicFilters = []) (.decode "MQTT UNSUBSCRIBE must include at least one topic filter")
  return { packetId, properties, topicFilters }

def encodeUnsubscribe (packet : UnsubscribePacket) : Exec BytesMut Unit := do
  failIf (packet.topicFilters = [])
    (.encode "MQTT UNSUBSCRIBE must include at least one topic filter")
  ensureNonzeroPacketIdEncode packet.packetId
  writeU16 packet.packetId
  writeProperties packet.properties
  encodeEach writeUtf8String packet.topicFilters

/-! ## DISCONNECT and AUTH -/

/-- A reason code and properties, each absent when nothing is left. -/
def decodeReason : Exec Reader (UInt8 × List MqttProperty) := do
  let self ← get
  if self.remaining = 0 then return (0, [])
  let reasonCode ← readU8
  let properties ← decodeTrailingProperties
  return (reasonCode, properties)

def decodeDisconnect : Exec Reader DisconnectPacket := do
  let (reasonCode, properties) ← decodeReason
  return { reasonCode, properties }

def encodeDisconnect (packet : DisconnectPacket) : Exec BytesMut Unit :=
  encodeReason packet.reasonCode packet.properties

def decodeAuth : Exec Reader AuthPacket := do
  let (reasonCode, properties) ← decodeReason
  return { reasonCode, properties }

def encodeAuth (packet : AuthPacket) : Exec BytesMut Unit :=
  encodeReason packet.reasonCode packet.properties

/-! ## Packets -/

def decodePacket (packetType flags : UInt8) : Exec Reader MqttPacket :=
  match packetType with
  | 1 => do expectFlags packetType flags 0; return .connect (← decodeConnect)
  | 2 => do expectFlags packetType flags 0; return .connAck (← decodeConnack)
  | 3 => do return .publish (← decodePublish flags)
  | 4 => do expectFlags packetType flags 0; return .pubAck (← decodeAck)
  | 5 => do expectFlags packetType flags 0; return .pubRec (← decodeAck)
  | 6 => do expectFlags packetType flags 2; return .pubRel (← decodeAck)
  | 7 => do expectFlags packetType flags 0; return .pubComp (← decodeAck)
  | 8 => do expectFlags packetType flags 2; return .subscribe (← decodeSubscribe)
  | 9 => do expectFlags packetType flags 0; return .subAck (← decodeSuback)
  | 10 => do expectFlags packetType flags 2; return .unsubscribe (← decodeUnsubscribe)
  | 11 => do expectFlags packetType flags 0; return .unsubAck (← decodeUnsuback)
  | 12 => do expectFlags packetType flags 0; expectEmpty (← get); return .pingReq
  | 13 => do expectFlags packetType flags 0; expectEmpty (← get); return .pingResp
  | 14 => do expectFlags packetType flags 0; return .disconnect (← decodeDisconnect)
  | 15 => do expectFlags packetType flags 0; return .auth (← decodeAuth)
  | _ => throw (.decode s!"invalid MQTT packet type: {packetType}")

/-- Packet type, flags and body. -/
def encodePacket (packet : MqttPacket) : Result (UInt8 × UInt8 × BytesMut) :=
  match packet with
  | .connect packet => body 1 0 (encodeConnect packet)
  | .connAck packet => body 2 0 (encodeConnack packet)
  | .publish packet => do
    let (flags, body) ← (encodePublish packet).runOn []
    return (3, flags, body)
  | .pubAck packet => body 4 0 (encodeAck packet)
  | .pubRec packet => body 5 0 (encodeAck packet)
  | .pubRel packet => body 6 2 (encodeAck packet)
  | .pubComp packet => body 7 0 (encodeAck packet)
  | .subscribe packet => body 8 2 (encodeSubscribe packet)
  | .subAck packet => body 9 0 (encodeSuback packet)
  | .unsubscribe packet => body 10 2 (encodeUnsubscribe packet)
  | .unsubAck packet => body 11 0 (encodeUnsuback packet)
  | .pingReq => body 12 0 (return ())
  | .pingResp => body 13 0 (return ())
  | .disconnect packet => body 14 0 (encodeDisconnect packet)
  | .auth packet => body 15 0 (encodeAuth packet)
where
  /-- The packet's body is written to a buffer of its own. -/
  body (packetType flags : UInt8) (encode : Exec BytesMut Unit) :
      Result (UInt8 × UInt8 × BytesMut) := do
    let (_, body) ← encode.runOn []
    return (packetType, flags, body)

/-- MQTT 5 packet codec for TCP stream pipelines. -/
structure MqttCodec where
  maxPacketSize : Nat

namespace MqttCodec

def new : MqttCodec := ⟨maxRemainingLength⟩

def withMaxPacketSize (maxPacketSize : Nat) : MqttCodec := ⟨maxPacketSize⟩

def decode (self : MqttCodec) : Exec BytesMut (Option MqttPacket) := do
  let src ← get
  if src.length < 2 then return none
  let fixedHeader ← index src 0
  match ← decodeRemainingLengthPrefix (← sliceFrom src 1) with
  | none => return none
  | some (remainingLen, remainingLenBytes) =>
    failIf (remainingLen > self.maxPacketSize)
      (.err (.frameTooLarge remainingLen self.maxPacketSize))
    let headerLen := 1 + remainingLenBytes
    let packetLen ← okOr (checkedAdd headerLen remainingLen)
      (.decode "MQTT packet length overflow")
    if src.length < packetLen then return none
    let packet ← splitTo packetLen
    let reader := Reader.new (← sliceFrom packet headerLen)
    let packetType := fixedHeader >>> 4
    let flags := fixedHeader &&& 0x0f
    let (decoded, reader) ← (decodePacket packetType flags).runOn reader
    failIf (reader.remaining ≠ 0)
      (.decode s!"MQTT packet has {reader.remaining} trailing bytes")
    return some decoded

def encode (self : MqttCodec) (item : MqttPacket) : Exec BytesMut Unit := do
  let (packetType, flags, body) ← encodePacket item
  failIf (body.length > self.maxPacketSize) (.err (.frameTooLarge body.length self.maxPacketSize))
  extendFromSlice [(packetType <<< 4) ||| flags]
  writeVariableInteger (UInt32.ofNat body.length)
  extendFromSlice body

end MqttCodec

end RsNetty.Mqtt

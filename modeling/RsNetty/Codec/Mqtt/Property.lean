import RsNetty.Codec.Mqtt.Wire

/-! MQTT 5 properties: one property, and the length-prefixed block of them. -/

namespace RsNetty.Mqtt
open EStateM Reader

/-- The arms of `decode_property`. -/
def decodePropertyValue (id : UInt8) : Exec Reader MqttProperty :=
  match id with
  | 0x01 => do return .payloadFormatIndicator (← readU8)
  | 0x02 => do return .messageExpiryInterval (← readU32)
  | 0x03 => do return .contentType (← readUtf8String)
  | 0x08 => do return .responseTopic (← readUtf8String)
  | 0x09 => do return .correlationData (← readBinaryData)
  | 0x0b => do return .subscriptionIdentifier (← readVariableInteger)
  | 0x11 => do return .sessionExpiryInterval (← readU32)
  | 0x12 => do return .assignedClientIdentifier (← readUtf8String)
  | 0x13 => do return .serverKeepAlive (← readU16)
  | 0x15 => do return .authenticationMethod (← readUtf8String)
  | 0x16 => do return .authenticationData (← readBinaryData)
  | 0x17 => do return .requestProblemInformation (← readU8)
  | 0x18 => do return .willDelayInterval (← readU32)
  | 0x19 => do return .requestResponseInformation (← readU8)
  | 0x1a => do return .responseInformation (← readUtf8String)
  | 0x1c => do return .serverReference (← readUtf8String)
  | 0x1f => do return .reasonString (← readUtf8String)
  | 0x21 => do return .receiveMaximum (← readU16)
  | 0x22 => do return .topicAliasMaximum (← readU16)
  | 0x23 => do return .topicAlias (← readU16)
  | 0x24 => do return .maximumQoS (← readU8)
  | 0x25 => do return .retainAvailable (← readU8)
  | 0x26 => do return .userProperty (← readUtf8String) (← readUtf8String)
  | 0x27 => do return .maximumPacketSize (← readU32)
  | 0x28 => do return .wildcardSubscriptionAvailable (← readU8)
  | 0x29 => do return .subscriptionIdentifierAvailable (← readU8)
  | 0x2a => do return .sharedSubscriptionAvailable (← readU8)
  | _ => throw (.decode s!"unknown MQTT v5 property id: {id}")

def decodeProperty : Exec Reader MqttProperty := do
  let id := (← readVariableInteger).toUInt8
  decodePropertyValue id

def encodeProperty (property : MqttProperty) : Exec BytesMut Unit :=
  match property with
  | .payloadFormatIndicator value => do writeVariableInteger 0x01; writeU8 value
  | .messageExpiryInterval value => do writeVariableInteger 0x02; writeU32 value
  | .contentType value => do writeVariableInteger 0x03; writeUtf8String value
  | .responseTopic value => do writeVariableInteger 0x08; writeUtf8String value
  | .correlationData value => do writeVariableInteger 0x09; writeBinaryData value
  | .subscriptionIdentifier value => do writeVariableInteger 0x0b; writeVariableInteger value
  | .sessionExpiryInterval value => do writeVariableInteger 0x11; writeU32 value
  | .assignedClientIdentifier value => do writeVariableInteger 0x12; writeUtf8String value
  | .serverKeepAlive value => do writeVariableInteger 0x13; writeU16 value
  | .authenticationMethod value => do writeVariableInteger 0x15; writeUtf8String value
  | .authenticationData value => do writeVariableInteger 0x16; writeBinaryData value
  | .requestProblemInformation value => do writeVariableInteger 0x17; writeU8 value
  | .willDelayInterval value => do writeVariableInteger 0x18; writeU32 value
  | .requestResponseInformation value => do writeVariableInteger 0x19; writeU8 value
  | .responseInformation value => do writeVariableInteger 0x1a; writeUtf8String value
  | .serverReference value => do writeVariableInteger 0x1c; writeUtf8String value
  | .reasonString value => do writeVariableInteger 0x1f; writeUtf8String value
  | .receiveMaximum value => do writeVariableInteger 0x21; writeU16 value
  | .topicAliasMaximum value => do writeVariableInteger 0x22; writeU16 value
  | .topicAlias value => do writeVariableInteger 0x23; writeU16 value
  | .maximumQoS value => do writeVariableInteger 0x24; writeU8 value
  | .retainAvailable value => do writeVariableInteger 0x25; writeU8 value
  | .userProperty key value => do
    writeVariableInteger 0x26; writeUtf8String key; writeUtf8String value
  | .maximumPacketSize value => do writeVariableInteger 0x27; writeU32 value
  | .wildcardSubscriptionAvailable value => do writeVariableInteger 0x28; writeU8 value
  | .subscriptionIdentifierAvailable value => do writeVariableInteger 0x29; writeU8 value
  | .sharedSubscriptionAvailable value => do writeVariableInteger 0x2a; writeU8 value

/-- `for item in items { encode(item, dst)? }` -/
def encodeEach (encode : α → Exec BytesMut Unit) : List α → Exec BytesMut Unit
  | [] => return ()
  | item :: items => do
    encode item
    encodeEach encode items

def writeProperties (properties : List MqttProperty) : Exec BytesMut Unit := do
  let (_, propertiesBuf) ← (encodeEach encodeProperty properties).runOn []
  writeVariableInteger (UInt32.ofNat propertiesBuf.length)
  extendFromSlice propertiesBuf

/-- The loop of `read_properties`, over a reader of its own that ends where the block does. -/
def decodeProperties (src : Bytes) : Result (List MqttProperty) := do
  let propertyReader := Reader.new src
  let (properties, _) ←
    (whileRemaining decodeProperty propertyReader.remaining).runOn propertyReader
  return properties

def Reader.readProperties : Exec Reader (List MqttProperty) := do
  let len ← readVariableInteger
  let self ← get
  let stop ← okOr (checkedAdd self.pos len.toNat) (.decode "MQTT properties length overflow")
  if stop > self.src.length then
    throw (.decode
      s!"MQTT properties length exceeds packet: end={stop}, len={self.src.length}")
  else
    let properties ← decodeProperties (← slice self.src self.pos stop)
    set { self with pos := stop }
    return properties

end RsNetty.Mqtt

import RsNetty.Error

/-! MQTT 5 control packets and properties, as `MqttCodec` decodes and encodes them. -/

namespace RsNetty.Mqtt

/-- MQTT Quality of Service level. -/
inductive QoS where
  | atMostOnce
  | atLeastOnce
  | exactlyOnce
deriving DecidableEq, Repr

def QoS.fromU8 (value : UInt8) : Result QoS :=
  match value with
  | 0 => .ok .atMostOnce
  | 1 => .ok .atLeastOnce
  | 2 => .ok .exactlyOnce
  | _ => .error (.decode s!"invalid MQTT QoS: {value}")

def QoS.asU8 : QoS → UInt8
  | .atMostOnce => 0
  | .atLeastOnce => 1
  | .exactlyOnce => 2

/-- MQTT 5 property value. -/
inductive MqttProperty where
  | payloadFormatIndicator (value : UInt8)
  | messageExpiryInterval (value : UInt32)
  | contentType (value : String)
  | responseTopic (value : String)
  | correlationData (value : Bytes)
  | subscriptionIdentifier (value : UInt32)
  | sessionExpiryInterval (value : UInt32)
  | assignedClientIdentifier (value : String)
  | serverKeepAlive (value : UInt16)
  | authenticationMethod (value : String)
  | authenticationData (value : Bytes)
  | requestProblemInformation (value : UInt8)
  | willDelayInterval (value : UInt32)
  | requestResponseInformation (value : UInt8)
  | responseInformation (value : String)
  | serverReference (value : String)
  | reasonString (value : String)
  | receiveMaximum (value : UInt16)
  | topicAliasMaximum (value : UInt16)
  | topicAlias (value : UInt16)
  | maximumQoS (value : UInt8)
  | retainAvailable (value : UInt8)
  | userProperty (key value : String)
  | maximumPacketSize (value : UInt32)
  | wildcardSubscriptionAvailable (value : UInt8)
  | subscriptionIdentifierAvailable (value : UInt8)
  | sharedSubscriptionAvailable (value : UInt8)
deriving DecidableEq, Repr

/-- MQTT Will Message carried in a CONNECT packet. -/
structure Will where
  qos : QoS
  retain : Bool
  properties : List MqttProperty
  topic : String
  payload : Bytes
deriving DecidableEq, Repr

structure ConnectPacket where
  cleanStart : Bool
  keepAlive : UInt16
  properties : List MqttProperty
  clientId : String
  will : Option Will
  username : Option String
  password : Option Bytes
deriving DecidableEq, Repr

structure ConnAckPacket where
  sessionPresent : Bool
  reasonCode : UInt8
  properties : List MqttProperty
deriving DecidableEq, Repr

structure PublishPacket where
  dup : Bool
  qos : QoS
  retain : Bool
  topicName : String
  packetId : Option UInt16
  properties : List MqttProperty
  payload : Bytes
deriving DecidableEq, Repr

/-- Shared packet shape for PUBACK, PUBREC, PUBREL, and PUBCOMP. -/
structure AckPacket where
  packetId : UInt16
  reasonCode : UInt8
  properties : List MqttProperty
deriving DecidableEq, Repr

/-- An acknowledgement packet without properties. -/
def AckPacket.new (packetId : UInt16) (reasonCode : UInt8) : AckPacket :=
  ⟨packetId, reasonCode, []⟩

/-- Options attached to one MQTT subscription. -/
structure SubscriptionOptions where
  maximumQos : QoS
  noLocal : Bool
  retainAsPublished : Bool
  retainHandling : UInt8
deriving DecidableEq, Repr

structure Subscription where
  topicFilter : String
  options : SubscriptionOptions
deriving DecidableEq, Repr

structure SubscribePacket where
  packetId : UInt16
  properties : List MqttProperty
  subscriptions : List Subscription
deriving DecidableEq, Repr

structure SubAckPacket where
  packetId : UInt16
  properties : List MqttProperty
  reasonCodes : List UInt8
deriving DecidableEq, Repr

structure UnsubscribePacket where
  packetId : UInt16
  properties : List MqttProperty
  topicFilters : List String
deriving DecidableEq, Repr

structure UnsubAckPacket where
  packetId : UInt16
  properties : List MqttProperty
  reasonCodes : List UInt8
deriving DecidableEq, Repr

structure DisconnectPacket where
  reasonCode : UInt8
  properties : List MqttProperty
deriving DecidableEq, Repr

structure AuthPacket where
  reasonCode : UInt8
  properties : List MqttProperty
deriving DecidableEq, Repr

/-- MQTT 5 control packet. -/
inductive MqttPacket where
  | connect (packet : ConnectPacket)
  | connAck (packet : ConnAckPacket)
  | publish (packet : PublishPacket)
  | pubAck (packet : AckPacket)
  | pubRec (packet : AckPacket)
  | pubRel (packet : AckPacket)
  | pubComp (packet : AckPacket)
  | subscribe (packet : SubscribePacket)
  | subAck (packet : SubAckPacket)
  | unsubscribe (packet : UnsubscribePacket)
  | unsubAck (packet : UnsubAckPacket)
  | pingReq
  | pingResp
  | disconnect (packet : DisconnectPacket)
  | auth (packet : AuthPacket)
deriving DecidableEq, Repr

end RsNetty.Mqtt

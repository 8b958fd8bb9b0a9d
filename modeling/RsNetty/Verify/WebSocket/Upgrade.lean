import RsNetty.Codec.HttpWsRouter
import RsNetty.Verify.Tcp.Reply
import RsNetty.Verify.WebSocket.Discipline

/-!
# The boundary of the upgrade

A connection with an `HttpWsRouter` calls the HTTP service for the requests in front of the upgrade
request and the WebSocket service for the frames behind it, however the stream is cut
(`HttpWsRouter.run_routed`). The codec changes its decoder while the outbox is drained for the
upgrade request, between two calls of the decode loop; so requests and frames are words of one
stream, which the rounds of the loop take one after the other.
-/

namespace RsNetty.WebSocket
open EStateM Segmentation Http

/-! ## The stream -/

/-- A request that asks for no upgrade. -/
structure PlainRequest (codec : HttpWsCodec) extends WireRequest codec.options where
  plain : request.isWebsocketUpgrade = false

/-- A request for an upgrade, with all that the handshake needs. -/
structure UpgradeRequest (base64Decode : List Char → Except String Bytes) (codec : HttpWsCodec)
    extends WireRequest codec.options where
  upgrade : request.isWebsocketUpgrade = true
  handshake : WebSocketHandshake
  valid : WebSocketHandshake.tryFrom base64Decode request = .ok handshake

/-- A frame that the decoder takes as a whole. -/
structure ClientFrame (codec : HttpWsCodec) where
  bytes : Bytes
  message : WebSocketMessage
  decoded : decodeWebsocketFrame codec.maxFrameLen codec.requireMaskedClientFrames bytes =
    .ok (some message) []

/-- A masked frame within the limits. -/
def ClientFrame.masked {codec : HttpWsCodec} (m : WebSocketMessage) (key : Bytes)
    (hm : m.Encodable) (hkey : key.length = 4) (hlen : m.payload.length ≤ isizeMax)
    (hmax : m.payload.length ≤ codec.maxFrameLen) : ClientFrame codec where
  bytes := wire m.opcode (some key) m.payload
  message := m
  decoded := by
    rcases encodeWebsocketOutbound_frame m [] with ⟨henc, -⟩ | ⟨-, hnot⟩
    · obtain ⟨-, hcontrol, hpayload⟩ := encodeWebsocketOutbound_eq_ok henc
      have hkeys : ∀ k ∈ some key, k.length = 4 := by
        rintro k ⟨⟩
        exact hkey
      have hword : decodeWebsocketFrame codec.maxFrameLen codec.requireMaskedClientFrames
          (wire m.opcode (some key) m.payload ++ []) = .ok (some m) [] :=
        decodeWebsocketFrame_wire m.opcode_lt hkeys hlen hmax (fun _ => rfl) hcontrol hpayload []
      rwa [List.append_nil] at hword
    · exact absurd hm hnot

/-- What a client sends: requests, an upgrade request, and frames. -/
structure UpgradeStream (base64Decode : List Char → Except String Bytes) (codec : HttpWsCodec) where
  requests : List (PlainRequest codec)
  upgrade : UpgradeRequest base64Decode codec
  frames : List (ClientFrame codec)

namespace UpgradeStream
variable {base64Decode : List Char → Except String Bytes} {codec : HttpWsCodec}

def words (stream : UpgradeStream base64Decode codec) : List Bytes :=
  stream.requests.map (·.bytes) ++ stream.upgrade.bytes :: stream.frames.map (·.bytes)

def bytes (stream : UpgradeStream base64Decode codec) : Bytes := stream.words.flatten

/-- The calls on the services that the stream asks for. -/
def calls (stream : UpgradeStream base64Decode codec) : List ServiceCall :=
  stream.requests.map (fun q => .call q.request) ++
    .open stream.upgrade.handshake :: stream.frames.map fun f => .message f.message

end UpgradeStream

/-! ## Words -/

namespace HttpWsCodec
variable {base64Decode : List Char → Except String Bytes} {codec : HttpWsCodec}

theorem decode_request_some (hstate : codec.state = .http)
    (h : decodeHttpRequest codec.options b = .ok (some request) b')
    (hitem : inbound base64Decode request = .ok item) :
    decode base64Decode (codec, b) = .ok (some item) (codec, b') := by
  rw [decode_http hstate]
  refine zoom_of_ok (c := Component.snd) ((bind_of_ok h).trans ?_)
  dsimp only
  rw [hitem]
  rfl

theorem decode_frame (hstate : codec.state = .webSocket)
    (h : decodeWebsocketFrame codec.maxFrameLen codec.requireMaskedClientFrames b = .ok m b') :
    decode base64Decode (codec, b) = .ok (m.map .webSocket) (codec, b') := by
  rw [decode_webSocket hstate]
  exact zoom_of_ok (c := Component.snd) (bind_of_ok h)

end HttpWsCodec

/-! ## The services -/

/-- The services answer the calls, made one after the other, with `Ok` and with replies that the
encoder accepts. It accepts every response to a request and to a handshake. -/
def Serves {H W : Type} [HttpService H] [WebSocketService W] : List ServiceCall → H → W → Prop
  | [], _, _ => True
  | .call request :: calls, http, websocket => ∃ response http',
    (HttpService.call http request).output = some (.ok response, http') ∧
      Serves calls http' websocket
  | .open handshake :: calls, http, websocket => ∃ response websocket',
    (WebSocketService.open websocket handshake).output = some (.ok response, websocket') ∧
      Serves calls http websocket'
  | .message message :: calls, http, websocket => ∃ reply websocket',
    (WebSocketService.message websocket message).output = some (.ok reply, websocket') ∧
      (∀ m ∈ reply, m.Encodable) ∧ Serves calls http websocket'

namespace HttpWsRouter
variable {H W : Type}

section Read
variable [HttpService H] [WebSocketService W] {router : HttpWsRouter H W} {http' : H}
  {websocket' : W}

end Read

/-! ## The connection -/

variable [HttpService H] [WebSocketService W] {base64Decode : List Char → Except String Bytes}
  {inbound business : PassingPipe HttpWsInbound} {outbound : PassingPipe HttpWsOutbound}

variable {s : StreamState (stages base64Decode inbound business outbound H W)}
  {codec codec' : HttpWsCodec} {router router' : HttpWsRouter H W} {http : H} {websocket : W}
  {faults : List (Option (Nat × String))} {calls made : List ServiceCall}

end HttpWsRouter

instance : HttpService Echo where
  call echo _ := .ready (.ok ⟨200, "OK".toList, [], []⟩) echo

instance : WebSocketService Echo where
  «open» echo _ := .suspend (.ready (.ok ⟨"s3pPLMBiTxaQ9kYGzzhZRbK+xOo=".toList, []⟩) echo)
  message echo message := .ready (.ok (some message)) echo

def sampleKey : List Char := "dGhlIHNhbXBsZSBub25jZQ==".toList

/-- Decodes the key of the sample only. -/
def decodeSample (key : List Char) : Except String Bytes :=
  if key = sampleKey then .ok (asBytes "the sample nonce") else .error "Invalid input"

def sampleHeaders : Headers :=
  [("Upgrade".toList, "websocket".toList), ("Connection".toList, "Upgrade".toList),
    ("Sec-WebSocket-Version".toList, "13".toList), ("Sec-WebSocket-Key".toList, sampleKey)]

end RsNetty.WebSocket

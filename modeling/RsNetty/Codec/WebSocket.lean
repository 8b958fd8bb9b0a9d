import RsNetty.Codec.Http
import RsNetty.Theory.Traced

/-!
# `WebSocketCodec` and `HttpWsCodec`

The opening handshake and the frames that follow it, and the codec that serves HTTP requests until
the handshake. The base64 decoder that checks the client's key is a parameter.
-/

namespace RsNetty.WebSocket
open EStateM Str Http

/-- WebSocket close status and optional reason. -/
structure WebSocketClose where
  code : UInt16
  reason : String
deriving DecidableEq, Repr

/-- WebSocket data/control messages after the opening handshake. -/
inductive WebSocketMessage where
  | text (text : String)
  | binary (bytes : Bytes)
  | close (close : Option WebSocketClose)
  | ping (bytes : Bytes)
  | pong (bytes : Bytes)
deriving DecidableEq, Repr

/-- Parsed WebSocket HTTP Upgrade request. -/
structure WebSocketHandshake where
  path : List Char
  key : List Char
  headers : Headers
deriving DecidableEq, Repr

/-- HTTP 101 Switching Protocols response for a WebSocket handshake. -/
structure WebSocketHandshakeResponse where
  acceptKey : List Char
  headers : Headers
deriving DecidableEq, Repr

/-- Inbound messages decoded by `WebSocketCodec`. -/
inductive WebSocketInbound where
  | handshake (handshake : WebSocketHandshake)
  | text (text : String)
  | binary (bytes : Bytes)
  | ping (bytes : Bytes)
  | pong (bytes : Bytes)
  | close (close : Option WebSocketClose)
deriving DecidableEq, Repr

/-- Outbound messages encoded by `WebSocketCodec`. -/
inductive WebSocketOutbound where
  | handshakeResponse (response : WebSocketHandshakeResponse)
  | text (text : String)
  | binary (bytes : Bytes)
  | close (close : Option WebSocketClose)
  | ping (bytes : Bytes)
  | pong (bytes : Bytes)
deriving DecidableEq, Repr

/-- `WebSocketOutbound::from(message)` -/
def WebSocketOutbound.ofMessage : WebSocketMessage → WebSocketOutbound
  | .text value => .text value
  | .binary bytes => .binary bytes
  | .close value => .close value
  | .ping bytes => .ping bytes
  | .pong bytes => .pong bytes

/-- `WebSocketInbound::from(message)` -/
def WebSocketInbound.ofMessage : WebSocketMessage → WebSocketInbound
  | .text value => .text value
  | .binary bytes => .binary bytes
  | .close value => .close value
  | .ping bytes => .ping bytes
  | .pong bytes => .pong bytes

/-! ## The opening handshake -/

def requireHeaderValue (headers : Headers) (name expected : String) : Result Unit :=
  match header headers name with
  | none => .error (.decode s!"missing {name} header")
  | some value =>
    failIf (!eqIgnoreAsciiCase value expected.toList) (.decode s!"invalid {name} header")

def requireConnectionUpgrade (headers : Headers) : Result Unit :=
  match header headers "Connection" with
  | none => .error (.decode "missing Connection header")
  | some value =>
    failIf (!(tokens value).any (eqIgnoreAsciiCase · "upgrade".toList))
      (.decode "invalid Connection header")

/-- The header lines up to the first empty one. -/
def parseHandshakeHeaders : List (List Char) → Result Headers
  | [] => .ok []
  | line :: lines =>
    if line = [] then .ok []
    else
      match splitOnce ':' line with
      | none => .error (.decode s!"invalid websocket header: {String.ofList line}")
      | some (name, value) => do
        let headers ← parseHandshakeHeaders lines
        return (trim name, trim value) :: headers

def clientKeyLen : Nat := 16

section Handshake
variable (base64Decode : List Char → Except String Bytes)

def validateClientKey (key : List Char) : Result Unit :=
  match base64Decode key with
  | .error err => .error (.decode s!"invalid Sec-WebSocket-Key: {err}")
  | .ok decoded =>
    failIf (decoded.length ≠ clientKeyLen)
      (.decode s!"invalid Sec-WebSocket-Key length: {decoded.length}")

def parseHandshake (src : List Char) : Result WebSocketHandshake :=
  match splitCrlf src with
  | [] => .error (.decode "missing websocket request line")
  | requestLine :: lines => do
    let requestParts := splitWhitespace requestLine
    let method := requestParts[0]?.getD []
    let path := requestParts[1]?.getD []
    let version := requestParts[2]?.getD []
    failIf (method ≠ "GET".toList ∨ path = [] ∨ ¬"HTTP/1.1".toList <+: version)
      (.decode "invalid websocket HTTP upgrade request line")
    let headers ← parseHandshakeHeaders lines
    requireHeaderValue headers "Upgrade" "websocket"
    requireConnectionUpgrade headers
    requireHeaderValue headers "Sec-WebSocket-Version" "13"
    let key ← okOr (header headers "Sec-WebSocket-Key") (.decode "missing Sec-WebSocket-Key")
    validateClientKey base64Decode key
    return ⟨path, key, headers⟩

end Handshake

def encodeHandshakeResponse (response : WebSocketHandshakeResponse) : Exec BytesMut Unit := do
  extendFromSlice (asBytes "HTTP/1.1 101 Switching Protocols\r\n")
  extendFromSlice (asBytes "Upgrade: websocket\r\n")
  extendFromSlice (asBytes "Connection: Upgrade\r\n")
  extendFromSlice (asBytes "Sec-WebSocket-Accept: ")
  extendFromSlice (asBytes (String.ofList response.acceptKey))
  extendFromSlice (asBytes "\r\n")
  encodeHeaders response.headers
  extendFromSlice (asBytes "\r\n")
where
  encodeHeaders : Headers → Exec BytesMut Unit
    | [] => return
    | (name, value) :: headers => do
      extendFromSlice (asBytes (String.ofList name))
      extendFromSlice (asBytes ": ")
      extendFromSlice (asBytes (String.ofList value))
      extendFromSlice (asBytes "\r\n")
      encodeHeaders headers

/-! ## Frames -/

def validateFrameHeader (fin : Bool) (rsv opcode : UInt8) (masked : Bool) (payloadLen : Nat)
    (requireMask : Bool) : Result Unit := do
  failIf (requireMask && !masked) (.decode "websocket client frame is not masked")
  failIf (rsv ≠ 0) (.decode "websocket reserved bits are set without an extension")
  failIf ((0x8 ≤ opcode ∧ opcode ≤ 0xa) ∧ !fin) (.decode "fragmented websocket control frame")
  failIf ((0x8 ≤ opcode ∧ opcode ≤ 0xa) ∧ payloadLen > 125)
    (.decode "websocket control frame payload exceeds 125 bytes")
  failIf (!fin) (.decode "fragmented websocket data frames are not supported yet")

def validatePayloadLenEncoding (encodedLenKind payloadLen : Nat) : Result Unit := do
  failIf (encodedLenKind = 126 ∧ payloadLen < 126)
    (.decode "websocket payload length is not minimally encoded")
  failIf (encodedLenKind = 127 ∧ payloadLen ≤ 65535)
    (.decode "websocket payload length is not minimally encoded")
  failIf (encodedLenKind = 127 ∧ payloadLen > 2 ^ 63 - 1)
    (.decode "websocket 64-bit payload length uses the reserved high bit")

/-- `Err(code.to_string())` unless the status code may be sent. -/
def validateCloseCode (code : UInt16) : Except String Unit :=
  if (1000 ≤ code ∧ code ≤ 1003) ∨ (1007 ≤ code ∧ code ≤ 1014) ∨ (3000 ≤ code ∧ code ≤ 4999) then
    .ok ()
  else .error (toString code.toNat)

def decodeClose (payload : Bytes) : Result (Option WebSocketClose) :=
  match payload with
  | [] => .ok none
  | [_] => .error (.decode "websocket close payload cannot be one byte")
  | b₀ :: b₁ :: reason => do
    let code := u16FromBeBytes [b₀, b₁]
    (validateCloseCode code).mapError fun message =>
      .decode s!"invalid websocket close status code: {message}"
    let reason ← (fromUtf8 reason).mapError fun err =>
      .decode s!"invalid websocket close reason: {err.display}"
    return some ⟨code, reason⟩

def decodePayload (opcode : UInt8) (payload : Bytes) : Result WebSocketMessage :=
  if opcode = 0x1 then do
    let text ← (fromUtf8 payload).mapError fun err =>
      .decode s!"invalid websocket text frame: {err.display}"
    return .text text
  else if opcode = 0x2 then .ok (.binary payload)
  else if opcode = 0x8 then .close <$> decodeClose payload
  else if opcode = 0x9 then .ok (.ping payload)
  else if opcode = 0xa then .ok (.pong payload)
  else .error (.decode s!"unsupported websocket opcode: {opcode}")

/-- What the bytes in front of the payload say. -/
structure FrameLayout where
  fin : Bool
  rsv : UInt8
  opcode : UInt8
  masked : Bool
  payloadLen : Nat
  headerLen : Nat
  frameLen : Nat
deriving DecidableEq, Repr

def FrameLayout.maskLen (layout : FrameLayout) : Nat := if layout.masked then 4 else 0

/-- The payload length and the length of the header in front of the mask, once they are there. -/
def readPayloadLen (src : BytesMut) (encodedLen : Nat) : Option (Nat × Nat) :=
  if encodedLen = 126 then
    if src.length < 4 then none else some ((u16FromBeBytes ((src.drop 2).take 2)).toNat, 4)
  else if encodedLen = 127 then
    if src.length < 10 then none else some ((u64FromBeBytes ((src.drop 2).take 8)).toNat, 10)
  else some (encodedLen, 2)

/-- The layout of the frame at the front of the buffer; nothing while its length is incomplete. -/
def frameLayout (maxFrameLen : Nat) (src : BytesMut) : Result (Option FrameLayout) :=
  match src with
  | first :: second :: _ => do
    let masked := second &&& 0x80 != 0
    let encodedLenKind := (second &&& 0x7f).toNat
    match readPayloadLen src encodedLenKind with
    | none => return none
    | some (payloadLen, headerLen) =>
      validatePayloadLenEncoding encodedLenKind payloadLen
      failIf (payloadLen > maxFrameLen) (.err (.frameTooLarge payloadLen maxFrameLen))
      let maskLen := if masked then 4 else 0
      let frameLen ← okOr ((checkedAdd headerLen maskLen).bind (checkedAdd · payloadLen))
        (.decode "websocket frame length overflow")
      return some {
        fin := first &&& 0x80 != 0, rsv := first &&& 0x70, opcode := first &&& 0x0f, masked,
        payloadLen, headerLen, frameLen }
  | _ => .ok none

/-- `payload[index] ^= mask[index % 4]` over the whole payload. -/
def applyMask (mask payload : Bytes) : Bytes :=
  payload.mapIdx fun index byte => byte ^^^ mask.getD (index % 4) 0

/-- The payload of a complete frame. -/
def framePayload (layout : FrameLayout) (frame : Bytes) : Bytes :=
  let frame := frame.drop layout.headerLen
  let payload := (frame.drop layout.maskLen).take layout.payloadLen
  if layout.masked then applyMask (frame.take 4) payload else payload

def decodeWebsocketFrame (maxFrameLen : Nat) (requireMaskedClientFrames : Bool) :
    Exec BytesMut (Option WebSocketMessage) := do
  let src ← get
  match ← frameLayout maxFrameLen src with
  | none => return none
  | some layout =>
    if src.length < layout.frameLen then return none
    else
      validateFrameHeader layout.fin layout.rsv layout.opcode layout.masked layout.payloadLen
        requireMaskedClientFrames
      let frame ← splitTo layout.frameLen
      return some (← decodePayload layout.opcode (framePayload layout frame))

def encodeFrame (opcode : UInt8) (payload : Bytes) : Exec BytesMut Unit := do
  extendFromSlice [0x80 ||| opcode]
  if payload.length ≤ 125 then extendFromSlice [UInt8.ofNat payload.length]
  else if payload.length ≤ 65535 then do
    extendFromSlice [126]
    extendFromSlice (u16ToBeBytes (UInt16.ofNat payload.length))
  else do
    extendFromSlice [127]
    extendFromSlice (u64ToBeBytes (UInt64.ofNat payload.length))
  extendFromSlice payload

def encodeControlFrame (opcode : UInt8) (payload : Bytes) : Exec BytesMut Unit := do
  failIf (payload.length > 125) (.encode "websocket control frame payload exceeds 125 bytes")
  encodeFrame opcode payload

def encodeClose : Option WebSocketClose → Exec BytesMut Unit
  | none => encodeControlFrame 0x8 []
  | some close => do
    lifted <| (validateCloseCode close.code).mapError fun message =>
      Fault.encode s!"invalid websocket close status code: {message}"
    encodeControlFrame 0x8 (u16ToBeBytes close.code ++ asBytes close.reason)

def encodeWebsocketOutbound : WebSocketOutbound → Exec BytesMut Unit
  | .handshakeResponse response => encodeHandshakeResponse response
  | .text text => encodeFrame 0x1 (asBytes text)
  | .binary bytes => encodeFrame 0x2 bytes
  | .close close => encodeClose close
  | .ping bytes => encodeControlFrame 0x9 bytes
  | .pong bytes => encodeControlFrame 0xa bytes

/-! ## The codec -/

inductive WebSocketState where
  | handshake
  | frames
deriving DecidableEq, Repr

/-- Stateful server-side WebSocket codec. -/
structure WebSocketCodec where
  state : WebSocketState
  maxHttpHeaderLen : Nat
  maxFrameLen : Nat
  requireMaskedClientFrames : Bool

namespace WebSocketCodec

def server : WebSocketCodec := ⟨.handshake, 16 * 1024, 16 * 1024 * 1024, true⟩

/-- A method call on the codec and the buffer that leaves the codec alone. -/
def onBuffer {α : Type} (x : Exec BytesMut α) : Exec (WebSocketCodec × BytesMut) α :=
  fun (self, src) =>
    match x src with
    | .ok a src => .ok a (self, src)
    | .error e src => .error e (self, src)

def decodeHandshake (base64Decode : List Char → Except String Bytes) :
    Exec (WebSocketCodec × BytesMut) (Option WebSocketInbound) := do
  let (self, src) ← get
  match findHttpHeaderEnd src with
  | none =>
    failIf (src.length > self.maxHttpHeaderLen)
      (.err (.frameTooLarge src.length self.maxHttpHeaderLen))
    return none
  | some headerEnd =>
    failIf (headerEnd > self.maxHttpHeaderLen)
      (.err (.frameTooLarge headerEnd self.maxHttpHeaderLen))
    let request ← onBuffer (splitTo (headerEnd + 4))
    let request ← strFromUtf8 "websocket handshake is not utf-8" request
    let handshake ← parseHandshake base64Decode request
    modify fun (self, src) => ({ self with state := .frames }, src)
    return some (.handshake handshake)

def decodeFrame : Exec (WebSocketCodec × BytesMut) (Option WebSocketInbound) := do
  let (self, _) ← get
  let message ← onBuffer (decodeWebsocketFrame self.maxFrameLen self.requireMaskedClientFrames)
  return message.map .ofMessage

def decode (base64Decode : List Char → Except String Bytes) :
    Exec (WebSocketCodec × BytesMut) (Option WebSocketInbound) := do
  match (← get).1.state with
  | .handshake => decodeHandshake base64Decode
  | .frames => decodeFrame

def encode (item : WebSocketOutbound) : Exec (WebSocketCodec × BytesMut) Unit := do
  match item with
  | .handshakeResponse response => do
    onBuffer (encodeHandshakeResponse response)
    modify fun (self, dst) => ({ self with state := .frames }, dst)
  | .text text => onBuffer (encodeFrame 0x1 (asBytes text))
  | .binary bytes => onBuffer (encodeFrame 0x2 bytes)
  | .close close => onBuffer (encodeClose close)
  | .ping bytes => onBuffer (encodeControlFrame 0x9 bytes)
  | .pong bytes => onBuffer (encodeControlFrame 0xa bytes)

end WebSocketCodec

/-! ## HTTP and WebSocket on one port -/

/-- Inbound messages decoded by `HttpWsCodec`. -/
inductive HttpWsInbound where
  | http (request : HttpRequest)
  | webSocketHandshake (handshake : WebSocketHandshake)
  | webSocket (message : WebSocketMessage)
deriving DecidableEq, Repr

/-- Outbound messages encoded by `HttpWsCodec`. -/
inductive HttpWsOutbound where
  | http (response : HttpResponse)
  | webSocketHandshake (response : WebSocketHandshakeResponse)
  | webSocket (message : WebSocketMessage)
deriving DecidableEq, Repr

inductive HttpWsState where
  | http
  | webSocket
deriving DecidableEq, Repr

/-- Combined HTTP/1.1 and WebSocket server codec for sharing one TCP port. -/
structure HttpWsCodec where
  state : HttpWsState
  maxHttpHeaderLen : Nat
  maxHttpBodyLen : Nat
  allowHttpChunked : Bool
  preserveHttpTrailers : Bool
  maxFrameLen : Nat
  requireMaskedClientFrames : Bool
deriving DecidableEq, Repr

/-- `WebSocketHandshake::try_from(&request)` -/
def WebSocketHandshake.tryFrom (base64Decode : List Char → Except String Bytes)
    (request : HttpRequest) : Result WebSocketHandshake := do
  failIf (¬eqIgnoreAsciiCase request.method "GET".toList ∨ request.target = [] ∨
      ¬"HTTP/1.1".toList <+: request.version)
    (.decode "invalid websocket HTTP upgrade request line")
  requireHeaderValue request.headers "Upgrade" "websocket"
  requireConnectionUpgrade request.headers
  requireHeaderValue request.headers "Sec-WebSocket-Version" "13"
  let key ← okOr (header request.headers "Sec-WebSocket-Key") (.decode "missing Sec-WebSocket-Key")
  validateClientKey base64Decode key
  return ⟨request.target, key, request.headers⟩

namespace HttpWsCodec

def server : HttpWsCodec :=
  ⟨.http, 16 * 1024, 16 * 1024, false, false, 16 * 1024 * 1024, true⟩

def options (self : HttpWsCodec) : HttpDecodeOptions :=
  ⟨self.maxHttpHeaderLen, self.maxHttpBodyLen, self.allowHttpChunked, self.preserveHttpTrailers⟩

/-- The item of an HTTP request. -/
def inbound (base64Decode : List Char → Except String Bytes) (request : HttpRequest) :
    Result HttpWsInbound :=
  if request.isWebsocketUpgrade then
    .webSocketHandshake <$> WebSocketHandshake.tryFrom base64Decode request
  else .ok (.http request)

def decodeHttp (base64Decode : List Char → Except String Bytes) (self : HttpWsCodec) :
    Exec BytesMut (Option HttpWsInbound) := do
  match ← decodeHttpRequest self.options with
  | none => return none
  | some request => return some (← inbound base64Decode request)

def decodeWebSocket (self : HttpWsCodec) : Exec BytesMut (Option HttpWsInbound) := do
  let message ← decodeWebsocketFrame self.maxFrameLen self.requireMaskedClientFrames
  return message.map .webSocket

def decode (base64Decode : List Char → Except String Bytes) :
    Exec (HttpWsCodec × BytesMut) (Option HttpWsInbound) := do
  let (self, _) ← get
  match self.state with
  | .http => EStateM.zoom Component.snd (self.decodeHttp base64Decode)
  | .webSocket => EStateM.zoom Component.snd self.decodeWebSocket

def encode (item : HttpWsOutbound) : Exec (HttpWsCodec × BytesMut) Unit := do
  match (← get).1.state, item with
  | .http, .http response => EStateM.zoom Component.snd (encodeHttpResponse response)
  | .http, .webSocketHandshake response => do
    EStateM.zoom Component.snd (encodeHandshakeResponse response)
    modify fun (self, dst) => ({ self with state := .webSocket }, dst)
  | .http, .webSocket _ =>
    throw (.encode "cannot write websocket frame before handshake response")
  | .webSocket, .webSocket message =>
    EStateM.zoom Component.snd (encodeWebsocketOutbound (.ofMessage message))
  | .webSocket, .http _ | .webSocket, .webSocketHandshake _ =>
    throw (.encode "cannot write HTTP response after websocket upgrade")

end HttpWsCodec

end RsNetty.WebSocket

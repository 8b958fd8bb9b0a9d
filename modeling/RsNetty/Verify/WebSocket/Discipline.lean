import RsNetty.Theory.Session
import RsNetty.Verify.WebSocket.Segmentation

/-!
# The order of what the WebSocket codecs write

`HttpWsCodec` keeps the order of the protocol over all calls (`HttpWsCodec.run_disciplined`): HTTP
responses, then the handshake response, then frames. `WebSocketCodec` does not check its state
before it encodes; `WebSocketCodec.wellFormedStream_iff` says for which calls its output is in
order.
-/

namespace RsNetty.WebSocket
open EStateM Http Session

/-! ## Responses and frames -/

/-- The line of a header field. -/
def fieldBytes (field : List Char × List Char) : Bytes :=
  asBytes (String.ofList field.1) ++ asBytes ": " ++ asBytes (String.ofList field.2) ++
    asBytes "\r\n"

/-- A response on the wire. A Content-Length field is added where there is none. -/
def responseBytes (response : HttpResponse) : Bytes :=
  asBytes "HTTP/1.1 " ++ asBytes (toString response.status.toNat) ++ asBytes " " ++
    asBytes (String.ofList response.reason) ++ asBytes "\r\n" ++
    response.headers.flatMap fieldBytes ++
    (if response.headers.any (Str.eqIgnoreAsciiCase ·.1 "Content-Length".toList) then []
      else asBytes "Content-Length: " ++ asBytes (toString response.body.length) ++
        asBytes "\r\n") ++
    asBytes "\r\n" ++ response.body

/-- The response that ends the opening handshake on the wire. -/
def handshakeBytes (response : WebSocketHandshakeResponse) : Bytes :=
  asBytes "HTTP/1.1 101 Switching Protocols\r\n" ++ asBytes "Upgrade: websocket\r\n" ++
    asBytes "Connection: Upgrade\r\n" ++ asBytes "Sec-WebSocket-Accept: " ++
    asBytes (String.ofList response.acceptKey) ++ asBytes "\r\n" ++
    response.headers.flatMap fieldBytes ++ asBytes "\r\n"

/-- A message of the server on the wire. -/
def WebSocketMessage.frameBytes (m : WebSocketMessage) : Bytes := wire m.opcode none m.payload

/-- Bytes are put in front of what the rest of a program emits. -/
theorem emits_extend {x : Exec BytesMut α} (bytes : Bytes) (h : Emits x a w) :
    Emits (extendFromSlice bytes >>= fun _ => x) a (bytes ++ w) :=
  (emits_extendFromSlice bytes).bind h

theorem emits_encodeResponseHeaders (headers : Headers) (seen : Bool) :
    Emits (encodeResponseHeaders seen headers)
      (seen || headers.any (Str.eqIgnoreAsciiCase ·.1 "Content-Length".toList))
      (headers.flatMap fieldBytes) := by
  induction headers generalizing seen with
  | nil =>
    rw [List.any_nil, Bool.or_false]
    exact Emits.pure seen
  | cons field headers ih =>
    rw [List.any_cons, ← Bool.or_assoc]
    have hfield := emits_extend (asBytes (String.ofList field.1)) (emits_extend (asBytes ": ")
      (emits_extend (asBytes (String.ofList field.2)) (emits_extend (asBytes "\r\n")
        (ih (seen || Str.eqIgnoreAsciiCase field.1 "Content-Length".toList)))))
    exact hfield.congr (by simp [fieldBytes])

theorem emits_encodeContentLength (hasContentLen : Bool) (len : Nat) :
    Emits (encodeContentLength hasContentLen len) ()
      (if hasContentLen then [] else
        asBytes "Content-Length: " ++ (asBytes (toString len) ++ asBytes "\r\n")) := by
  cases hasContentLen with
  | true => exact Emits.pure ()
  | false => exact emits_extend _ (emits_extend _ (emits_extendFromSlice _))

theorem emits_encodeHttpResponse (response : HttpResponse) :
    Emits (encodeHttpResponse response) () (responseBytes response) := by
  have hend : Emits (extendFromSlice (asBytes "\r\n") >>= fun _ => extendFromSlice response.body) ()
      (asBytes "\r\n" ++ response.body) := emits_extend _ (emits_extendFromSlice _)
  have hheaders := (emits_encodeResponseHeaders response.headers false).bind (f := fun seen =>
    encodeContentLength seen response.body.length >>= fun _ =>
      extendFromSlice (asBytes "\r\n") >>= fun _ => extendFromSlice response.body)
    ((emits_encodeContentLength _ response.body.length).bind hend)
  have := emits_extend (asBytes "HTTP/1.1 ") (emits_extend (asBytes (toString response.status.toNat))
    (emits_extend (asBytes " ") (emits_extend (asBytes (String.ofList response.reason))
      (emits_extend (asBytes "\r\n") hheaders))))
  exact this.congr (by simp only [responseBytes, Bool.false_or, List.append_assoc])

theorem emits_encodeHeaders (headers : Headers) :
    Emits (encodeHandshakeResponse.encodeHeaders headers) () (headers.flatMap fieldBytes) := by
  induction headers with
  | nil => exact Emits.pure ()
  | cons field headers ih =>
    exact (emits_extend _ (emits_extend _ (emits_extend _ (emits_extend _ ih)))).congr
      (by simp [fieldBytes])

theorem emits_encodeHandshakeResponse (response : WebSocketHandshakeResponse) :
    Emits (encodeHandshakeResponse response) () (handshakeBytes response) := by
  have hheaders := (emits_encodeHeaders response.headers).bind
    (f := fun _ => extendFromSlice (asBytes "\r\n")) (emits_extendFromSlice _)
  have := emits_extend (asBytes "HTTP/1.1 101 Switching Protocols\r\n")
    (emits_extend (asBytes "Upgrade: websocket\r\n") (emits_extend (asBytes "Connection: Upgrade\r\n")
      (emits_extend (asBytes "Sec-WebSocket-Accept: ")
        (emits_extend (asBytes (String.ofList response.acceptKey))
          (emits_extend (asBytes "\r\n") hheaders)))))
  exact this.congr (by simp only [handshakeBytes, List.append_assoc])

/-! ## Frames -/

/-- The encoder accepts the message: its close code may be sent, and a control frame is short. -/
def WebSocketMessage.Encodable (m : WebSocketMessage) : Prop :=
  (∀ close, m = .close (some close) → validateCloseCode close.code = .ok ()) ∧
    (8 ≤ m.opcode.toNat → m.payload.length ≤ 125)

theorem encodeControlFrame_eq (opcode : UInt8) (payload : Bytes) (d : BytesMut) :
    encodeControlFrame opcode payload d =
      if payload.length > 125 then
        .error (.encode "websocket control frame payload exceeds 125 bytes") d
      else .ok () (d ++ wire opcode none payload) := by
  rw [encodeControlFrame, failIf]
  split
  · rfl
  · exact emits_encodeFrame opcode payload d

/-- Control frames are accepted if they are short. -/
theorem encodeControlFrame_frame {m : WebSocketMessage} (hopcode : 8 ≤ m.opcode)
    (hclose : ∀ close, m = .close (some close) → validateCloseCode close.code = .ok ())
    (d : BytesMut) :
    encodeControlFrame m.opcode m.payload d = .ok () (d ++ m.frameBytes) ∧ m.Encodable ∨
      (∃ e, encodeControlFrame m.opcode m.payload d = .error e d) ∧ ¬m.Encodable := by
  rw [encodeControlFrame_eq]
  by_cases hlen : m.payload.length > 125
  · rw [if_pos hlen]
    exact .inr ⟨⟨_, rfl⟩, fun h => absurd (h.2 hopcode) (Nat.not_le.2 hlen)⟩
  · rw [if_neg hlen]
    exact .inl ⟨rfl, hclose, fun _ => Nat.le_of_not_lt hlen⟩

/-- Data frames are always accepted. -/
theorem encodeFrame_frame {m : WebSocketMessage} (hopcode : m.opcode < 8) (d : BytesMut) :
    encodeFrame m.opcode m.payload d = .ok () (d ++ m.frameBytes) ∧ m.Encodable := by
  refine ⟨emits_encodeFrame m.opcode m.payload d, ?_, fun h => ?_⟩
  · rintro close rfl
    exact absurd hopcode (by decide : ¬(0x8 : UInt8) < 8)
  · exact absurd h (Nat.not_le.2 hopcode)

/-- The encoder appends the frame of the message or leaves the buffer as it was. -/
theorem encodeWebsocketOutbound_frame (m : WebSocketMessage) (d : BytesMut) :
    encodeWebsocketOutbound (.ofMessage m) d = .ok () (d ++ m.frameBytes) ∧ m.Encodable ∨
      (∃ e, encodeWebsocketOutbound (.ofMessage m) d = .error e d) ∧ ¬m.Encodable := by
  cases m with
  | text value =>
    exact .inl (encodeFrame_frame (m := .text value) (by decide : (0x1 : UInt8) < 8) d)
  | binary bytes =>
    exact .inl (encodeFrame_frame (m := .binary bytes) (by decide : (0x2 : UInt8) < 8) d)
  | ping bytes =>
    exact encodeControlFrame_frame (m := .ping bytes) (by decide : (8 : UInt8) ≤ 9)
      (fun _ h => by cases h) d
  | pong bytes =>
    exact encodeControlFrame_frame (m := .pong bytes) (by decide : (8 : UInt8) ≤ 10)
      (fun _ h => by cases h) d
  | close value =>
    cases value with
    | none =>
      exact encodeControlFrame_frame (m := .close none) (by decide) (fun _ h => by cases h) d
    | some close =>
      cases hcode : validateCloseCode close.code with
      | ok _ =>
        have henc : encodeWebsocketOutbound (.ofMessage (.close (some close))) d =
            encodeControlFrame (WebSocketMessage.close (some close)).opcode
              (WebSocketMessage.close (some close)).payload d := by
          change encodeClose (some close) d = _
          rw [encodeClose, hcode]
          rfl
        rw [henc]
        refine encodeControlFrame_frame (m := .close (some close)) (by decide : (8 : UInt8) ≤ 8) ?_ d
        rintro _ ⟨⟩
        exact hcode
      | error message =>
        have henc : encodeWebsocketOutbound (.ofMessage (.close (some close))) d =
            .error (.encode s!"invalid websocket close status code: {message}") d := by
          change encodeClose (some close) d = _
          rw [encodeClose, hcode]
          rfl
        refine .inr ⟨⟨_, henc⟩, fun h => ?_⟩
        cases hcode.symm.trans (h.1 close rfl)

/-! ## `HttpWsCodec` -/

namespace HttpWsCodec

variable (base64Decode : List Char → Except String Bytes)

/-- The codec with its two sides. -/
def codec : Session.Codec Fault UInt8 HttpWsCodec HttpWsInbound HttpWsOutbound where
  decode := decode base64Decode
  encode := encode

/-- The bytes of a message. -/
def outboundBytes : HttpWsOutbound → Bytes
  | .http response => responseBytes response
  | .webSocketHandshake response => handshakeBytes response
  | .webSocket message => message.frameBytes

/-- The handshake response is among the messages. -/
def Upgraded (t : Transcript UInt8 HttpWsOutbound) : Prop :=
  ∃ response, .webSocketHandshake response ∈ t.items

/-- Responses, then at most one handshake response, then frames, and no frames without it. -/
def InOrder (t : Transcript UInt8 HttpWsOutbound) : Prop :=
  ∃ (responses : List HttpResponse) (upgrade : Option WebSocketHandshakeResponse)
    (messages : List WebSocketMessage),
    t.items = responses.map .http ++ (upgrade.toList.map .webSocketHandshake ++
      messages.map .webSocket) ∧
    t.written = responses.flatMap responseBytes ++ (upgrade.toList.flatMap handshakeBytes ++
      messages.flatMap WebSocketMessage.frameBytes) ∧
    (upgrade = none → messages = [])

/-- What holds after some calls, for the output so far and for any next call. -/
structure Disciplined (s : HttpWsCodec × Transcript UInt8 HttpWsOutbound) : Prop where
  output : InOrder s.2
  http : ∀ src request rest,
    decode base64Decode (s.1, src) = .ok (some (.http request)) rest → ¬Upgraded s.2
  handshake : ∀ src handshake rest,
    decode base64Decode (s.1, src) = .ok (some (.webSocketHandshake handshake)) rest →
      ¬Upgraded s.2
  webSocket : ∀ src message rest,
    decode base64Decode (s.1, src) = .ok (some (.webSocket message)) rest → Upgraded s.2
  decode : ∀ src, (decode base64Decode (s.1, src)).final.1 = s.1
  accepted : ∀ item dst t, encode item (s.1, dst) = .ok () t → t.2 = dst ++ outboundBytes item
  refused : ∀ item dst e t, encode item (s.1, dst) = .error e t → t = (s.1, dst)

variable {base64Decode} {self : HttpWsCodec} {src dst : BytesMut}

theorem decode_http (hstate : self.state = .http) (src : BytesMut) :
    HttpWsCodec.decode base64Decode (self, src) =
      EStateM.zoom Component.snd (self.decodeHttp base64Decode) (self, src) := by
  rw [HttpWsCodec.decode, get_bind]
  simp only [hstate]

theorem decode_webSocket (hstate : self.state = .webSocket) (src : BytesMut) :
    HttpWsCodec.decode base64Decode (self, src) =
      EStateM.zoom Component.snd self.decodeWebSocket (self, src) := by
  rw [HttpWsCodec.decode, get_bind]
  simp only [hstate]

theorem decode_final (self : HttpWsCodec) (src : BytesMut) :
    (HttpWsCodec.decode base64Decode (self, src)).final.1 = self := by
  cases hstate : self.state with
  | http => rw [decode_http hstate, final_zoom, Component.snd]
  | webSocket => rw [decode_webSocket hstate, final_zoom, Component.snd]

theorem encode_http (hstate : self.state = .http) (response : HttpResponse) (dst : BytesMut) :
    encode (.http response) (self, dst) = .ok () (self, dst ++ responseBytes response) := by
  rw [encode, get_bind, hstate]
  exact zoom_of_ok (emits_encodeHttpResponse response dst)

theorem encode_handshake (hstate : self.state = .http) (response : WebSocketHandshakeResponse)
    (dst : BytesMut) :
    encode (.webSocketHandshake response) (self, dst) =
      .ok () ({ self with state := .webSocket }, dst ++ handshakeBytes response) := by
  rw [encode, get_bind, hstate]
  exact bind_of_ok (zoom_of_ok (emits_encodeHandshakeResponse response dst))

theorem encode_webSocket (hstate : self.state = .webSocket) (m : WebSocketMessage)
    (dst : BytesMut) :
    encode (.webSocket m) (self, dst) = .ok () (self, dst ++ m.frameBytes) ∧ m.Encodable ∨
      (∃ e, encode (.webSocket m) (self, dst) = .error e (self, dst)) ∧ ¬m.Encodable := by
  rw [encode, get_bind, hstate]
  rcases encodeWebsocketOutbound_frame m dst with ⟨henc, h⟩ | ⟨⟨e, henc⟩, h⟩
  · exact .inl ⟨zoom_of_ok henc, h⟩
  · exact .inr ⟨⟨e, zoom_of_error henc⟩, h⟩

/-- What was written so far, in each state. -/
def Output : HttpWsState → Transcript UInt8 HttpWsOutbound → Prop
  | .http, t => ∃ responses : List HttpResponse,
      t.items = responses.map .http ∧ t.written = responses.flatMap responseBytes
  | .webSocket, t => ∃ (responses : List HttpResponse) (upgrade : WebSocketHandshakeResponse)
      (messages : List WebSocketMessage),
      t.items = responses.map .http ++ .webSocketHandshake upgrade :: messages.map .webSocket ∧
      t.written = responses.flatMap responseBytes ++
        (handshakeBytes upgrade ++ messages.flatMap WebSocketMessage.frameBytes)

/-- An encode call either adds what the state allows or changes nothing. -/
theorem encode_cases (self : HttpWsCodec) (item : HttpWsOutbound) (dst : BytesMut) :
    (∃ e, encode item (self, dst) = .error e (self, dst)) ∨
    ∃ state, encode item (self, dst) = .ok () ({ self with state }, dst ++ outboundBytes item) ∧
      ∀ t, Output self.state t → Output state (t ++ [(item, outboundBytes item)]) := by
  cases hstate : self.state with
  | http =>
    cases item with
    | http response =>
      refine .inr ⟨.http, ?_, ?_⟩
      · rw [encode_http hstate, ← hstate]
        rfl
      · rintro t ⟨responses, hitems, hwritten⟩
        refine ⟨responses ++ [response], ?_, ?_⟩
        · rw [Transcript.items_concat, hitems, List.map_append, List.map_singleton]
        · rw [Transcript.written_concat, hwritten, List.flatMap_append, List.flatMap_singleton]
          rfl
    | webSocketHandshake response =>
      refine .inr ⟨.webSocket, encode_handshake hstate response dst, ?_⟩
      rintro t ⟨responses, hitems, hwritten⟩
      refine ⟨responses, response, [], ?_, ?_⟩
      · rw [Transcript.items_concat, hitems, List.map_nil]
      · rw [Transcript.written_concat, hwritten, List.flatMap_nil, List.append_nil]
        rfl
    | webSocket m =>
      rw [encode, get_bind, hstate]
      exact .inl ⟨_, rfl⟩
  | webSocket =>
    cases item with
    | webSocket m =>
      rcases encode_webSocket hstate m dst with ⟨henc, -⟩ | ⟨henc, -⟩
      · refine .inr ⟨.webSocket, ?_, ?_⟩
        · rw [henc, ← hstate]
          rfl
        · rintro t ⟨responses, upgrade, messages, hitems, hwritten⟩
          refine ⟨responses, upgrade, messages ++ [m], ?_, ?_⟩
          · rw [Transcript.items_concat, hitems]
            simp
          · rw [Transcript.written_concat, hwritten]
            simp [outboundBytes]
      · exact .inl henc
    | http response =>
      rw [encode, get_bind, hstate]
      exact .inl ⟨_, rfl⟩
    | webSocketHandshake response =>
      rw [encode, get_bind, hstate]
      exact .inl ⟨_, rfl⟩

theorem call_output {s : HttpWsCodec × Transcript UInt8 HttpWsOutbound}
    (next : Call UInt8 HttpWsOutbound) (h : Output s.1.state s.2) :
    Output (call (codec base64Decode) s next).1.state (call (codec base64Decode) s next).2 := by
  cases next with
  | decode src =>
    change Output ((HttpWsCodec.decode base64Decode (s.1, src)).final.1).state s.2
    rwa [decode_final]
  | encode item dst =>
    rcases encode_cases s.1 item dst with ⟨e, henc⟩ | ⟨state, henc, hkeep⟩
    · rwa [call_encode_error henc]
    · rw [call_encode_ok henc, List.drop_left]
      exact hkeep s.2 h

theorem Output.inOrder {state : HttpWsState} (h : Output state t) : InOrder t := by
  cases state with
  | http =>
    obtain ⟨responses, hitems, hwritten⟩ := h
    exact ⟨responses, none, [], by simp [hitems], by simp [hwritten], fun _ => rfl⟩
  | webSocket =>
    obtain ⟨responses, upgrade, messages, hitems, hwritten⟩ := h
    exact ⟨responses, some upgrade, messages, by simp [hitems], by simp [hwritten],
      fun h => by cases h⟩

theorem Output.upgraded_iff {state : HttpWsState} (h : Output state t) :
    Upgraded t ↔ state = .webSocket := by
  cases state with
  | http =>
    obtain ⟨responses, hitems, -⟩ := h
    simp [Upgraded, hitems]
  | webSocket =>
    obtain ⟨responses, upgrade, messages, hitems, -⟩ := h
    simp [Upgraded, hitems]

theorem run_output (hfresh : self.state = .http) (calls : List (Call UInt8 HttpWsOutbound)) :
    Output (run (codec base64Decode) self calls).1.state (run (codec base64Decode) self calls).2 := by
  have hstart : Output self.state [] := by
    rw [hfresh]
    exact ⟨[], rfl, rfl⟩
  exact run_invariant (P := fun s => Output s.1.state s.2) self hstart
    (fun s next => call_output next) calls

/-- The items that the decoder returns while it reads requests, and while it reads frames. -/
def Expects : HttpWsState → HttpWsInbound → Prop
  | .http, item => ∀ message, item ≠ .webSocket message
  | .webSocket, item => ∃ message, item = .webSocket message

theorem decode_http_eq_some (hstate : self.state = .http)
    (h : HttpWsCodec.decode base64Decode (self, src) = .ok (some item) (self', rest)) :
    ∃ request, decodeHttpRequest self.options src = .ok (some request) rest ∧
      inbound base64Decode request = .ok item := by
  rw [decode_http hstate] at h
  obtain ⟨rest, h, ht⟩ := zoom_eq_ok.1 h
  cases ht
  obtain ⟨request, src, hrequest, h⟩ := bind_eq_ok.1 h
  cases request with
  | none => cases h
  | some request =>
    obtain ⟨item, hitem, h⟩ := Exec.call_eq_ok.1 h
    cases h
    exact ⟨request, hrequest, hitem⟩

theorem decode_webSocket_eq_some (hstate : self.state = .webSocket)
    (h : HttpWsCodec.decode base64Decode (self, src) = .ok (some item) (self', rest)) :
    ∃ message, decodeWebsocketFrame self.maxFrameLen self.requireMaskedClientFrames src =
      .ok (some message) rest ∧ item = .webSocket message := by
  rw [decode_webSocket hstate] at h
  obtain ⟨rest, h, ht⟩ := zoom_eq_ok.1 h
  cases ht
  obtain ⟨message, src, hmessage, h⟩ := bind_eq_ok.1 h
  cases message with
  | none => cases h
  | some message =>
    cases h
    exact ⟨message, hmessage, rfl⟩

theorem decode_expects (h : HttpWsCodec.decode base64Decode (self, src) = .ok (some item) rest) :
    Expects self.state item := by
  cases hstate : self.state with
  | http =>
    obtain ⟨request, -, hitem⟩ := decode_http_eq_some hstate h
    rintro message rfl
    rw [inbound] at hitem
    split at hitem
    · cases htry : WebSocketHandshake.tryFrom base64Decode request with
      | error e => rw [htry] at hitem; cases hitem
      | ok handshake => rw [htry] at hitem; cases hitem
    · cases hitem
  | webSocket =>
    obtain ⟨message, -, rfl⟩ := decode_webSocket_eq_some hstate h
    exact ⟨message, rfl⟩

/-- Over all calls on a fresh codec the output is in order, the decoder returns what belongs to the
phase of the connection and never changes it, and a refused message changes nothing. -/
theorem run_disciplined (hfresh : self.state = .http) (calls : List (Call UInt8 HttpWsOutbound)) :
    Disciplined base64Decode (run (codec base64Decode) self calls) := by
  have houtput : Output (run (codec base64Decode) self calls).1.state
      (run (codec base64Decode) self calls).2 := run_output hfresh calls
  generalize run (codec base64Decode) self calls = s at houtput
  have hupgraded := houtput.upgraded_iff
  exact {
    output := houtput.inOrder
    http := by
      intro src request rest h hup
      have := decode_expects h
      rw [hupgraded.1 hup] at this
      obtain ⟨_, h⟩ := this
      cases h
    handshake := by
      intro src request rest h hup
      have := decode_expects h
      rw [hupgraded.1 hup] at this
      obtain ⟨_, h⟩ := this
      cases h
    webSocket := by
      intro src message rest h
      have := decode_expects h
      cases hstate : s.1.state with
      | http =>
        rw [hstate] at this
        exact absurd rfl (this message)
      | webSocket => exact hupgraded.2 hstate
    decode := fun src => decode_final s.1 src
    accepted := by
      intro item dst t h
      rcases encode_cases s.1 item dst with ⟨e, henc⟩ | ⟨state, henc, -⟩
      · cases h.symm.trans henc
      · cases h.symm.trans henc
        rfl
    refused := by
      intro item dst e t h
      rcases encode_cases s.1 item dst with ⟨e', henc⟩ | ⟨state, henc, -⟩
      · cases h.symm.trans henc
        rfl
      · cases h.symm.trans henc }

/-- A request is read and answered with the handshake response; a frame is read and one written. -/
theorem run_disciplined_upgrade :
    let frame : Bytes := [0x81, 0x81, 0, 0, 0, 0, 0x61]
    let s := run (codec fun _ => .ok []) server
      [.decode (asBytes "GET / HTTP/1.1\r\n\r\n"), .encode (.webSocketHandshake ⟨[], []⟩) [],
        .decode frame, .encode (.webSocket (.text "a")) [7]]
    Disciplined (fun _ => .ok []) s ∧
      decode (fun _ => .ok []) (s.1, frame) = .ok (some (.webSocket (.text "a"))) (s.1, []) :=
  ⟨run_disciplined rfl _, runOn_eq_ok.1 (by decide +kernel)⟩

end HttpWsCodec

/-! ## `WebSocketCodec` -/

namespace WebSocketCodec

variable (base64Decode : List Char → Except String Bytes)

/-- The codec with its two sides. -/
def codec : Session.Codec Fault UInt8 WebSocketCodec WebSocketInbound WebSocketOutbound where
  decode := decode base64Decode
  encode := encode

def IsHandshake : WebSocketOutbound → Prop
  | .handshakeResponse _ => True
  | _ => False

/-- The encoder accepts the message in every state. -/
def Sendable (item : WebSocketOutbound) : Prop :=
  ∀ m, item = .ofMessage m → m.Encodable

/-- The bytes of a message. -/
def outboundBytes : WebSocketOutbound → Bytes
  | .handshakeResponse response => handshakeBytes response
  | .text value => WebSocketMessage.frameBytes (.text value)
  | .binary bytes => WebSocketMessage.frameBytes (.binary bytes)
  | .close value => WebSocketMessage.frameBytes (.close value)
  | .ping bytes => WebSocketMessage.frameBytes (.ping bytes)
  | .pong bytes => WebSocketMessage.frameBytes (.pong bytes)

/-- A message is a handshake response or that of a frame. -/
theorem outbound_cases (item : WebSocketOutbound) :
    (∃ response, item = .handshakeResponse response) ∨ ∃ m, item = .ofMessage m := by
  cases item with
  | handshakeResponse response => exact .inl ⟨response, rfl⟩
  | text value => exact .inr ⟨.text value, rfl⟩
  | binary bytes => exact .inr ⟨.binary bytes, rfl⟩
  | close value => exact .inr ⟨.close value, rfl⟩
  | ping bytes => exact .inr ⟨.ping bytes, rfl⟩
  | pong bytes => exact .inr ⟨.pong bytes, rfl⟩

theorem not_isHandshake_ofMessage (m : WebSocketMessage) : ¬IsHandshake (.ofMessage m) := by
  cases m <;> exact id

theorem outboundBytes_ofMessage (m : WebSocketMessage) :
    outboundBytes (.ofMessage m) = m.frameBytes := by
  cases m <;> rfl

theorem ofMessage_injective {m m' : WebSocketMessage}
    (h : WebSocketOutbound.ofMessage m = .ofMessage m') : m = m' := by
  cases m <;> cases m' <;> cases h <;> rfl

theorem encode_ofMessage (m : WebSocketMessage) :
    encode (.ofMessage m) = onBuffer (encodeWebsocketOutbound (.ofMessage m)) := by
  cases m <;> rfl

theorem sendable_handshakeResponse (response : WebSocketHandshakeResponse) :
    Sendable (.handshakeResponse response) := by
  intro m h
  have := not_isHandshake_ofMessage m
  rw [← h] at this
  exact absurd trivial this

/-- The encoder does not look at the state. -/
theorem encode_cases (self : WebSocketCodec) (item : WebSocketOutbound) (dst : BytesMut) :
    ((∃ e, encode item (self, dst) = .error e (self, dst)) ∧ ¬Sendable item) ∨
      (∃ self', encode item (self, dst) = .ok () (self', dst ++ outboundBytes item)) ∧
        Sendable item := by
  rcases outbound_cases item with ⟨response, rfl⟩ | ⟨m, rfl⟩
  · refine .inr ⟨⟨{ self with state := .frames }, ?_⟩, sendable_handshakeResponse response⟩
    rw [encode]
    exact bind_of_ok (onBuffer_ok (emits_encodeHandshakeResponse response dst) self)
  · rw [encode_ofMessage, outboundBytes_ofMessage]
    rcases encodeWebsocketOutbound_frame m dst with ⟨henc, hm⟩ | ⟨⟨e, henc⟩, hm⟩
    · refine .inr ⟨⟨self, onBuffer_ok henc self⟩, ?_⟩
      rintro m' h
      exact ofMessage_injective h ▸ hm
    · exact .inl ⟨⟨e, onBuffer_error henc self⟩, fun h => hm (h m rfl)⟩

/-- The handshake response is among the messages. -/
def Handshaken (t : Transcript UInt8 WebSocketOutbound) : Prop :=
  ∃ response, .handshakeResponse response ∈ t.items

/-- A frame before the handshake response, or a second handshake response. -/
def Offends (t : Transcript UInt8 WebSocketOutbound) (item : WebSocketOutbound) : Prop :=
  IsHandshake item ↔ Handshaken t

/-- One handshake response and then frames, or nothing. -/
def InOrder (t : Transcript UInt8 WebSocketOutbound) : Prop :=
  (t.items = [] ∧ t.written = []) ∨
    ∃ (response : WebSocketHandshakeResponse) (messages : List WebSocketMessage),
      t.items = .handshakeResponse response :: messages.map .ofMessage ∧
      t.written = handshakeBytes response ++ messages.flatMap WebSocketMessage.frameBytes

/-- The output of the calls is in order, and each call that would break the order is refused and
leaves its buffer as it was. -/
structure WellFormedStream (start : WebSocketCodec) (calls : List (Call UInt8 WebSocketOutbound)) :
    Prop where
  output : InOrder (run (codec base64Decode) start calls).2
  refused : ∀ before item dst after, calls = before ++ .encode item dst :: after →
    Offends (run (codec base64Decode) start before).2 item →
      ∃ e t, encode item ((run (codec base64Decode) start before).1, dst) = .error e t ∧ t.2 = dst

/-- A handshake response is to be encoded in one of the calls. -/
def HandshakeIn (calls : List (Call UInt8 WebSocketOutbound)) : Prop :=
  ∃ response dst, .encode (.handshakeResponse response) dst ∈ calls

/-- Of the messages that the encoder accepts, the first is a handshake response and no other is. -/
def HandshakeFirst (calls : List (Call UInt8 WebSocketOutbound)) : Prop :=
  ∀ before item dst after, calls = before ++ .encode item dst :: after → Sendable item →
    (IsHandshake item ↔ ¬HandshakeIn before)

variable {base64Decode} {self : WebSocketCodec} {calls : List (Call UInt8 WebSocketOutbound)}

theorem handshaken_run (self : WebSocketCodec) (calls : List (Call UInt8 WebSocketOutbound)) :
    Handshaken (run (codec base64Decode) self calls).2 ↔ HandshakeIn calls := by
  induction calls using List.reverseRecOn with
  | nil => simp [Handshaken, HandshakeIn, Transcript.items]
  | append_singleton calls next ih =>
    rw [run_concat]
    generalize run (codec base64Decode) self calls = s at ih ⊢
    have hconcat : HandshakeIn (calls ++ [next]) ↔
        HandshakeIn calls ∨ ∃ response dst, next = .encode (.handshakeResponse response) dst := by
      simp only [HandshakeIn, List.mem_append, List.mem_singleton]
      constructor
      · rintro ⟨response, dst, h | h⟩
        · exact .inl ⟨response, dst, h⟩
        · exact .inr ⟨response, dst, h.symm⟩
      · rintro (⟨response, dst, h⟩ | ⟨response, dst, h⟩)
        · exact ⟨response, dst, .inl h⟩
        · exact ⟨response, dst, .inr h.symm⟩
    rw [hconcat, ← ih]
    cases next with
    | decode src => simp [call]
    | encode item dst =>
      rcases encode_cases s.1 item dst with ⟨⟨e, henc⟩, hsend⟩ | ⟨⟨self', henc⟩, -⟩
      · rw [call_encode_error henc]
        refine (or_iff_left ?_).symm
        rintro ⟨response, dst', h⟩
        cases h
        exact hsend (sendable_handshakeResponse response)
      · rw [call_encode_ok henc, Handshaken, Transcript.items_concat]
        simp only [List.mem_append, List.mem_singleton]
        constructor
        · rintro ⟨response, h | h⟩
          · exact .inl ⟨response, h⟩
          · exact .inr ⟨response, dst, by rw [h]⟩
        · rintro (⟨response, h⟩ | ⟨response, dst', h⟩)
          · exact ⟨response, .inl h⟩
          · cases h
            exact ⟨response, .inr rfl⟩

theorem HandshakeFirst.of_concat {next : Call UInt8 WebSocketOutbound}
    (h : HandshakeFirst (calls ++ [next])) : HandshakeFirst calls := by
  rintro before item dst after rfl hsend
  exact h before item dst (after ++ [next]) (by simp) hsend

theorem HandshakeFirst.inOrder (self : WebSocketCodec) (h : HandshakeFirst calls) :
    InOrder (run (codec base64Decode) self calls).2 := by
  induction calls using List.reverseRecOn with
  | nil => exact .inl ⟨rfl, rfl⟩
  | append_singleton calls next ih =>
    have ih := ih h.of_concat
    have hshaken : Handshaken (run (codec base64Decode) self calls).2 ↔ HandshakeIn calls :=
      handshaken_run self calls
    rw [run_concat]
    generalize run (codec base64Decode) self calls = s at ih hshaken ⊢
    cases next with
    | decode src => exact ih
    | encode item dst =>
      rcases encode_cases s.1 item dst with ⟨⟨e, henc⟩, -⟩ | ⟨⟨self', henc⟩, hsend⟩
      · rwa [call_encode_error henc]
      · have hfirst := h calls item dst [] rfl hsend
        rw [← hshaken] at hfirst
        rw [call_encode_ok henc, List.drop_left, InOrder, Transcript.items_concat,
          Transcript.written_concat]
        rcases ih with ⟨hitems, hwritten⟩ | ⟨response, messages, hitems, hwritten⟩
        · -- nothing was written, so this is the handshake response
          have hnot : ¬Handshaken s.2 := by simp [Handshaken, hitems]
          rcases outbound_cases item with ⟨response, rfl⟩ | ⟨m, rfl⟩
          · exact .inr ⟨response, [], by simp [hitems], by simp [hwritten, outboundBytes]⟩
          · exact absurd (hfirst.2 hnot) (not_isHandshake_ofMessage m)
        · -- the handshake response was written, so this is a frame
          have hin : Handshaken s.2 := ⟨response, by simp [hitems]⟩
          rcases outbound_cases item with ⟨response', rfl⟩ | ⟨m, rfl⟩
          · exact absurd hin (hfirst.1 trivial)
          · refine .inr ⟨response, messages ++ [m], by simp [hitems], ?_⟩
            simp [hwritten, outboundBytes_ofMessage]

/-- The output of `WebSocketCodec` is in order exactly for the calls that bring a handshake response
first and only once. -/
theorem wellFormedStream_iff (self : WebSocketCodec)
    (calls : List (Call UInt8 WebSocketOutbound)) :
    WellFormedStream base64Decode self calls ↔ HandshakeFirst calls := by
  constructor
  · intro h before item dst after hcalls hsend
    have hrefused := h.refused before item dst after hcalls
    rw [Offends, handshaken_run] at hrefused
    rcases encode_cases (run (codec base64Decode) self before).1 item dst with
      ⟨-, hsend'⟩ | ⟨⟨self', henc⟩, -⟩
    · exact absurd hsend hsend'
    · by_contra hfirst
      obtain ⟨e, t, herror, -⟩ := hrefused (by tauto)
      cases henc.symm.trans herror
  · intro h
    refine ⟨h.inOrder self, ?_⟩
    intro before item dst after hcalls hoffends
    rw [Offends, handshaken_run] at hoffends
    rcases encode_cases (run (codec base64Decode) self before).1 item dst with
      ⟨⟨e, henc⟩, -⟩ | ⟨-, hsend⟩
    · exact ⟨e, _, henc, rfl⟩
    · have := h before item dst after hcalls hsend
      tauto

/-- A frame written before the request of the client has arrived is encoded. -/
theorem not_wellFormedStream_early :
    (¬∀ base64Decode calls, WellFormedStream base64Decode server calls) ∧
      encode (.text "a") (server, []) = .ok () (server, [0x81, 1, 0x61]) := by
  have hsend : Sendable (.text "a") := by
    intro m h
    cases m with
    | text value => exact (encodeFrame_frame (m := .text value) (by decide : (0x1 : UInt8) < 8) []).2
    | _ => cases h
  refine ⟨fun h => ?_, rfl⟩
  have := (wellFormedStream_iff server _).1 (h (fun _ => .ok []) [.encode (.text "a") []])
    [] (.text "a") [] [] rfl hsend
  exact this.2 (by simp [HandshakeIn])

end WebSocketCodec

end RsNetty.WebSocket

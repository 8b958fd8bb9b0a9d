import RsNetty.Verify.Line
import RsNetty.Verify.Mqtt.Reader
import RsNetty.Verify.WebSocket.Upgrade

/-!
# What a failing decoder takes

A decoder is to take bytes off its buffer only for a full item. `LineCodec`, `MqttCodec` and the
WebSocket codecs split a line, a packet, a head or a frame off before they have read it, so that one
they cannot read is gone when they return the error.
-/

namespace RsNetty
open EStateM

/-- Where the call returns an `Err`, everything is as it was before. -/
def LeavesOnErr {σ α : Type} (x : Exec σ α) (s : σ) : Prop :=
  ∀ e t, x s = .error (.err e) t → t = s

section LeavesOnErr
variable {σ α : Type} {x : Exec σ α} {s : σ}

theorem leavesOnErr_of_ok (h : x s = .ok a t) : LeavesOnErr x s :=
  fun _ _ h' => nomatch h.symm.trans h'

theorem leavesOnErr_of_error (h : x s = .error e s) : LeavesOnErr x s := by
  intro e' t h'
  cases h.symm.trans h'
  rfl

/-- A call that has taken something and returns an error is what the contract excludes. -/
theorem not_leavesOnErr_of_error (h : x s = .error e t) (he : Returned e) (hne : t ≠ s) :
    ¬LeavesOnErr x s := by
  intro hleaves
  cases e with
  | err e => exact hne (hleaves e t h)
  | panic => exact he rfl

/-- A step that takes nothing and does not fail. -/
theorem leavesOnErr_map {β : Type} {f : α → β} :
    LeavesOnErr (x >>= fun a => pure (f a)) s ↔ LeavesOnErr x s := by
  cases h : x s with
  | ok a t => exact iff_of_true (leavesOnErr_of_ok (bind_of_ok h)) (leavesOnErr_of_ok h)
  | error e t =>
    constructor
    · intro hleaves e' t' h'
      cases h.symm.trans h'
      exact hleaves _ _ (bind_of_error h)
    · intro hleaves e' t' h'
      cases (bind_of_error h).symm.trans h'
      exact hleaves _ _ h

end LeavesOnErr

theorem ne_of_length_lt {b b' : Bytes} (h : b.length < b'.length) : b ≠ b' :=
  fun hb => Nat.ne_of_lt h (congrArg List.length hb)

/-! ## Lines -/

/-- A line within the limit is UTF-8. -/
def LineCodec.Readable (self : LineCodec) (src : BytesMut) : Prop :=
  ∀ line rest, src = line ++ 0x0a :: rest → 0x0a ∉ line → line.length ≤ self.maxLineLen →
    ∃ s, fromUtf8 (stripCr line) = .ok s

theorem LineCodec.leavesOnErr_iff (self : LineCodec) (src : BytesMut) :
    LeavesOnErr self.decode src ↔ self.Readable src := by
  rcases line_cases src with h | ⟨line, rest, rfl, h⟩
  · refine iff_of_true ?_ ?_
    · by_cases hlen : src.length ≤ self.maxLineLen
      · exact leavesOnErr_of_ok (decode_tail h hlen)
      · exact leavesOnErr_of_error (decode_longTail h (Nat.lt_of_not_le hlen))
    · rintro line rest rfl
      simp at h
  · have hone {line' rest' : Bytes} (hsrc : line ++ 0x0a :: rest = line' ++ 0x0a :: rest')
        (h' : 0x0a ∉ line') : line' = line := by
      have hlen := findIdx?_newline h rest
      rw [hsrc, findIdx?_newline h' rest'] at hlen
      exact (List.append_inj_left hsrc (Option.some.inj hlen).symm).symm
    by_cases hlen : line.length ≤ self.maxLineLen
    · cases hs : fromUtf8 (stripCr line) with
      | ok s =>
        refine iff_of_true (leavesOnErr_of_ok (decode_line h hlen hs rest)) ?_
        intro line' rest' hsrc h' _
        rw [hone hsrc h']
        exact ⟨s, hs⟩
      | error err =>
        refine iff_of_false ?_ fun hread => ?_
        · refine not_leavesOnErr_of_error (decode_badLine h hlen hs rest) (returned_decode _) ?_
          exact ne_of_length_lt (by rw [List.length_append, List.length_cons]; omega)
        · obtain ⟨s, hs'⟩ := hread line rest rfl h hlen
          cases hs.symm.trans hs'
    · refine iff_of_true (leavesOnErr_of_error (decode_longLine h (Nat.lt_of_not_le hlen) rest)) ?_
      intro line' rest' hsrc h' hlen'
      rw [hone hsrc h'] at hlen'
      exact (hlen hlen').elim

/-! ## MQTT packets -/

namespace Mqtt

/-- A complete packet within the limit has a body that is read to its end. -/
def MqttCodec.Readable (self : MqttCodec) (src : BytesMut) : Prop :=
  ∀ b body rest, src = wire b body ++ rest → body.length ≤ maxRemainingLength →
    body.length ≤ self.maxPacketSize → ∃ p, decodeBody b body = .ok p

theorem MqttCodec.leavesOnErr_iff (self : MqttCodec) (src : BytesMut) :
    LeavesOnErr self.decode src ↔ self.Readable src := by
  constructor
  · rintro hleaves b body rest rfl hlen hmax
    cases hbody : decodeBody b body with
    | ok p => exact ⟨p, rfl⟩
    | error e =>
      have hdecode : self.decode (wire b body ++ rest) = _ := decode_of_wire hlen hmax b rest
      rw [hbody] at hdecode
      refine (not_leavesOnErr_of_error hdecode (decodeBody_error hbody) ?_ hleaves).elim
      rw [wire, List.cons_append]
      exact ne_of_length_lt (by rw [List.length_cons, List.length_append]; omega)
  · intro hread e rest h
    rcases decode_eq_error h with ⟨-, hrest⟩ | ⟨b, body, hlen, hmax, rfl, hbody⟩
    · exact hrest
    · obtain ⟨p, hp⟩ := hread b body rest rfl hlen hmax
      cases hbody.symm.trans hp

end Mqtt

/-! ## WebSocket frames -/

namespace WebSocket
open Http

/-- A complete frame with a valid header has a payload that can be read. -/
def FrameReadable (maxFrameLen : Nat) (requireMasked : Bool) (src : BytesMut) : Prop :=
  ∀ layout, frameLayout maxFrameLen src = .ok (some layout) → layout.frameLen ≤ src.length →
    validateFrameHeader layout.fin layout.rsv layout.opcode layout.masked layout.payloadLen
      requireMasked = .ok () →
    ∃ m, decodePayload layout.opcode (framePayload layout (src.take layout.frameLen)) = .ok m

theorem returned_strFromUtf8 {bytes : Bytes} (h : strFromUtf8 what bytes = .error e) :
    Returned e := by
  unfold strFromUtf8 at h
  split at h <;> cases h
  exact returned_decode _

theorem returned_mapError {α ε : Type} {x : Except ε α} {f : ε → String}
    (h : x.mapError (fun err => Fault.decode (f err)) = .error e) : Returned e := by
  cases x with
  | ok a => cases h
  | error err =>
    cases h
    exact returned_decode _

theorem returned_decodeClose {payload : Bytes} (h : decodeClose payload = .error e) :
    Returned e := by
  unfold decodeClose at h
  split at h
  · cases h
  · cases h
    exact returned_decode _
  · rcases Except.bind_eq_error.1 h with hcode | ⟨_, -, h⟩
    · exact returned_mapError hcode
    · rcases Except.bind_eq_error.1 h with hreason | ⟨_, -, h⟩
      · exact returned_mapError hreason
      · cases h

theorem returned_decodePayload {opcode : UInt8} {payload : Bytes}
    (h : decodePayload opcode payload = .error e) : Returned e := by
  unfold decodePayload at h
  split_ifs at h
  · rcases Except.bind_eq_error.1 h with htext | ⟨_, -, h⟩
    · exact returned_mapError htext
    · cases h
  · cases hclose : decodeClose payload with
    | ok close =>
      rw [hclose] at h
      cases h
    | error err =>
      rw [hclose] at h
      cases h
      exact returned_decodeClose hclose
  · cases h
    exact returned_decode _

theorem decodeWebsocketFrame_leavesOnErr_iff (maxFrameLen : Nat) (requireMasked : Bool)
    (src : BytesMut) :
    LeavesOnErr (decodeWebsocketFrame maxFrameLen requireMasked) src ↔
      FrameReadable maxFrameLen requireMasked src := by
  cases hlayout : frameLayout maxFrameLen src with
  | error e =>
    refine iff_of_true (leavesOnErr_of_error (decodeWebsocketFrame_malformed hlayout)) ?_
    intro layout h
    cases hlayout.symm.trans h
  | ok layout =>
    cases layout with
    | none =>
      refine iff_of_true (leavesOnErr_of_ok (decodeWebsocketFrame_noLength hlayout)) ?_
      intro layout h
      cases hlayout.symm.trans h
    | some layout =>
      have hone {layout'} (h : frameLayout maxFrameLen src = .ok (some layout')) :
          layout' = layout := by
        cases hlayout.symm.trans h
        rfl
      by_cases hlen : layout.frameLen ≤ src.length
      · cases hvalid : validateFrameHeader layout.fin layout.rsv layout.opcode layout.masked
            layout.payloadLen requireMasked with
        | error e =>
          have hdecode := decodeWebsocketFrame_badHeader hlayout hlen hvalid
          refine iff_of_true (leavesOnErr_of_error hdecode) ?_
          intro layout' h _ hvalid'
          rw [hone h] at hvalid'
          cases hvalid.symm.trans hvalid'
        | ok _ =>
          cases hpayload : decodePayload layout.opcode
              (framePayload layout (src.take layout.frameLen)) with
          | ok m =>
            have hm : frameMessage layout requireMasked (src.take layout.frameLen) = .ok m := by
              rw [frameMessage, hvalid, Except.ok_bind, hpayload]
            refine iff_of_true
              (leavesOnErr_of_ok (decodeWebsocketFrame_complete hlayout hlen hm)) ?_
            intro layout' h _ _
            rw [hone h]
            exact ⟨m, hpayload⟩
          | error e =>
            have hdecode := decodeWebsocketFrame_badPayload hlayout hlen hvalid hpayload
            have hpos := two_le_frameLen hlayout
            refine iff_of_false ?_ fun hread => ?_
            · refine not_leavesOnErr_of_error hdecode (returned_decodePayload hpayload) ?_
              exact ne_of_length_lt (by rw [List.length_drop]; omega)
            · obtain ⟨m, hm⟩ := hread layout hlayout hlen hvalid
              cases hpayload.symm.trans hm
      · refine iff_of_true
          (leavesOnErr_of_ok (decodeWebsocketFrame_short hlayout (Nat.lt_of_not_le hlen))) ?_
        intro layout' h hlen'
        rw [hone h] at hlen'
        exact (hlen hlen').elim

/-! ## The opening handshake -/

theorem returned_requireHeaderValue {headers : Headers} {name expected : String}
    (h : requireHeaderValue headers name expected = .error e) : Returned e := by
  unfold requireHeaderValue at h
  split at h
  · cases h
    exact returned_decode _
  · exact returned_failIf h

theorem returned_requireConnectionUpgrade {headers : Headers}
    (h : requireConnectionUpgrade headers = .error e) : Returned e := by
  unfold requireConnectionUpgrade at h
  split at h
  · cases h
    exact returned_decode _
  · exact returned_failIf h

theorem returned_parseHandshakeHeaders {lines : List (List Char)}
    (h : parseHandshakeHeaders lines = .error e) : Returned e := by
  induction lines with
  | nil => cases h
  | cons line lines ih =>
    rw [parseHandshakeHeaders] at h
    split at h
    · cases h
    · split at h
      · cases h
        exact returned_decode _
      · rcases Except.bind_eq_error.1 h with hrest | ⟨_, -, h⟩
        · exact ih hrest
        · cases h

section Handshake
variable {base64Decode : List Char → Except String Bytes}

theorem returned_validateClientKey {key : List Char}
    (h : validateClientKey base64Decode key = .error e) : Returned e := by
  unfold validateClientKey at h
  split at h
  · cases h
    exact returned_decode _
  · exact returned_failIf h

/-- The checks that the two ways of reading a handshake share. -/
theorem returned_checkHandshake {headers : Headers} {path : List Char}
    (h : (do
      requireHeaderValue headers "Upgrade" "websocket"
      requireConnectionUpgrade headers
      requireHeaderValue headers "Sec-WebSocket-Version" "13"
      let key ← okOr (header headers "Sec-WebSocket-Key") (.decode "missing Sec-WebSocket-Key")
      validateClientKey base64Decode key
      return ⟨path, key, headers⟩ : Result WebSocketHandshake) = .error e) : Returned e := by
  rcases Except.bind_eq_error.1 h with hupgrade | ⟨_, -, h⟩
  · exact returned_requireHeaderValue hupgrade
  rcases Except.bind_eq_error.1 h with hconnection | ⟨_, -, h⟩
  · exact returned_requireConnectionUpgrade hconnection
  rcases Except.bind_eq_error.1 h with hversion | ⟨_, -, h⟩
  · exact returned_requireHeaderValue hversion
  rcases Except.bind_eq_error.1 h with hkey | ⟨key, -, h⟩
  · unfold okOr at hkey
    split at hkey <;> cases hkey
    exact returned_decode _
  rcases Except.bind_eq_error.1 h with hvalid | ⟨_, -, h⟩
  · exact returned_validateClientKey hvalid
  · cases h

theorem returned_parseHandshake {text : List Char}
    (h : parseHandshake base64Decode text = .error e) : Returned e := by
  unfold parseHandshake at h
  split at h
  · cases h
    exact returned_decode _
  · rcases Except.bind_eq_error.1 h with hline | ⟨_, -, h⟩
    · exact returned_failIf hline
    rcases Except.bind_eq_error.1 h with hheaders | ⟨headers, -, h⟩
    · exact returned_parseHandshakeHeaders hheaders
    · exact returned_checkHandshake h

theorem returned_readHandshake {src : Bytes} {headerEnd : Nat}
    (h : WebSocketCodec.readHandshake base64Decode src headerEnd = .error e) : Returned e := by
  rcases Except.bind_eq_error.1 h with htext | ⟨_, -, hparse⟩
  · exact returned_strFromUtf8 htext
  · exact returned_parseHandshake hparse

theorem returned_tryFrom {request : HttpRequest}
    (h : WebSocketHandshake.tryFrom base64Decode request = .error e) : Returned e := by
  rcases Except.bind_eq_error.1 h with hline | ⟨_, -, h⟩
  · exact returned_failIf hline
  · exact returned_checkHandshake h

end Handshake

/-! ## The WebSocket codecs -/

variable (base64Decode : List Char → Except String Bytes)

/-- The head of a handshake within the limit is accepted. -/
def HeadReadable (maxHttpHeaderLen : Nat) (src : BytesMut) : Prop :=
  ∀ headerEnd, findHttpHeaderEnd src = some headerEnd → headerEnd ≤ maxHttpHeaderLen →
    ∃ handshake, WebSocketCodec.readHandshake base64Decode src headerEnd = .ok handshake

def WebSocketCodec.Readable (self : WebSocketCodec) (src : BytesMut) : Prop :=
  match self.state with
  | .handshake => HeadReadable base64Decode self.maxHttpHeaderLen src
  | .frames => FrameReadable self.maxFrameLen self.requireMaskedClientFrames src

theorem WebSocketCodec.leavesOnErr_iff (self : WebSocketCodec) (src : BytesMut) :
    LeavesOnErr (decode base64Decode) (self, src) ↔ self.Readable base64Decode src := by
  unfold Readable
  cases hstate : self.state with
  | handshake =>
    dsimp only
    cases hfind : findHttpHeaderEnd src with
    | none =>
      have hdecode : decode base64Decode (self, src) = _ := decode_handshake_none hstate hfind
      refine iff_of_true ?_ fun headerEnd h => by cases hfind.symm.trans h
      split at hdecode
      · exact leavesOnErr_of_error hdecode
      · exact leavesOnErr_of_ok hdecode
    | some headerEnd =>
      by_cases hmax : headerEnd ≤ self.maxHttpHeaderLen
      · cases hread : readHandshake base64Decode src headerEnd with
        | ok handshake =>
          refine iff_of_true (leavesOnErr_of_ok (decode_handshake_ok hstate hfind hmax hread)) ?_
          intro headerEnd' h _
          cases hfind.symm.trans h
          exact ⟨handshake, hread⟩
        | error e =>
          have hdecode := decode_handshake_error hstate hfind hmax hread
          have hle := findHttpHeaderEnd_le hfind
          refine iff_of_false ?_ fun h => ?_
          · refine not_leavesOnErr_of_error hdecode (returned_readHandshake hread) fun hsame => ?_
            have hlen := congrArg (List.length ·.2) hsame
            dsimp only at hlen
            rw [List.length_drop] at hlen
            omega
          · obtain ⟨handshake, hok⟩ := h headerEnd hfind hmax
            cases hread.symm.trans hok
      · have hdecode : decode base64Decode (self, src) = _ :=
          decode_handshake_tooLong hstate hfind (Nat.lt_of_not_le hmax)
        refine iff_of_true (leavesOnErr_of_error hdecode) ?_
        intro headerEnd' h hmax'
        cases hfind.symm.trans h
        exact (hmax hmax').elim
  | frames =>
    dsimp only
    rw [← decodeWebsocketFrame_leavesOnErr_iff]
    cases h : decodeWebsocketFrame self.maxFrameLen self.requireMaskedClientFrames src with
    | ok m rest =>
      exact iff_of_true (leavesOnErr_of_ok (decode_frames_ok hstate h)) (leavesOnErr_of_ok h)
    | error e rest =>
      have hdecode : decode base64Decode (self, src) = _ := decode_frames_error hstate h
      constructor
      · intro hleaves e' rest' h'
        cases h.symm.trans h'
        exact congrArg Prod.snd (hleaves _ _ hdecode)
      · intro hleaves e' st h'
        cases hdecode.symm.trans h'
        rw [hleaves _ _ h]

/-- A complete request for an upgrade is accepted as a handshake. -/
def UpgradeReadable (options : HttpDecodeOptions) (src : BytesMut) : Prop :=
  ∀ request rest, decodeHttpRequest options src = .ok (some request) rest →
    request.isWebsocketUpgrade = true →
    ∃ handshake, WebSocketHandshake.tryFrom base64Decode request = .ok handshake

def HttpWsCodec.Readable (self : HttpWsCodec) (src : BytesMut) : Prop :=
  match self.state with
  | .http => UpgradeReadable base64Decode self.options src
  | .webSocket => FrameReadable self.maxFrameLen self.requireMaskedClientFrames src

theorem HttpWsCodec.inbound_eq_error {request : HttpRequest} :
    inbound base64Decode request = .error e ↔
      request.isWebsocketUpgrade = true ∧
        WebSocketHandshake.tryFrom base64Decode request = .error e := by
  unfold inbound
  cases request.isWebsocketUpgrade with
  | false => simp
  | true =>
    cases WebSocketHandshake.tryFrom base64Decode request with
    | ok handshake => simp [Functor.map, Except.map]
    | error e => simp [Functor.map, Except.map]

/-- The codec's own state takes no part in a call. -/
theorem leavesOnErr_zoom {σ α : Type} {x : Exec BytesMut α} {y : Exec (σ × BytesMut) α} {self : σ}
    {src : BytesMut} (h : y (self, src) = EStateM.zoom Component.snd x (self, src)) :
    LeavesOnErr y (self, src) ↔ LeavesOnErr x src := by
  constructor
  · intro hleaves e rest hx
    exact congrArg Prod.snd (hleaves e _ (h.trans (zoom_of_error (c := Component.snd) hx)))
  · intro hleaves e st hy
    rw [h, EStateM.zoom] at hy
    cases hx : x src with
    | ok a rest => rw [show x (Component.snd.get (self, src)) = _ from hx] at hy; cases hy
    | error e' rest =>
      rw [show x (Component.snd.get (self, src)) = _ from hx] at hy
      cases hy
      rw [hleaves e rest hx]
      rfl

theorem HttpWsCodec.decodeHttp_leavesOnErr_iff (self : HttpWsCodec) (src : BytesMut) :
    LeavesOnErr (self.decodeHttp base64Decode) src ↔
      UpgradeReadable base64Decode self.options src := by
  obtain ⟨herror, hnone⟩ := decodeHttpRequest_unchanged self.options src
  cases hrequest : decodeHttpRequest self.options src with
  | error e rest =>
    cases herror e rest hrequest
    refine iff_of_true (leavesOnErr_of_error (bind_of_error hrequest)) ?_
    intro request rest' h
    cases hrequest.symm.trans h
  | ok request rest =>
    cases request with
    | none =>
      refine iff_of_true (leavesOnErr_of_ok (bind_of_ok hrequest)) ?_
      intro request rest' h
      cases hrequest.symm.trans h
    | some request =>
      cases hitem : inbound base64Decode request with
      | ok item =>
        have hdecode : self.decodeHttp base64Decode src = .ok (some item) rest := by
          rw [decodeHttp, bind_of_ok hrequest]
          dsimp only
          rw [hitem]
          rfl
        refine iff_of_true (leavesOnErr_of_ok hdecode) ?_
        intro request' rest' h hupgrade
        cases hrequest.symm.trans h
        cases htry : WebSocketHandshake.tryFrom base64Decode request with
        | ok handshake => exact ⟨handshake, rfl⟩
        | error e => cases hitem.symm.trans ((inbound_eq_error base64Decode).2 ⟨hupgrade, htry⟩)
      | error e =>
        have hdecode : self.decodeHttp base64Decode src = .error e rest := by
          rw [decodeHttp, bind_of_ok hrequest]
          dsimp only
          rw [hitem]
          rfl
        obtain ⟨hupgrade, htry⟩ := (inbound_eq_error base64Decode).1 hitem
        obtain ⟨headerEnd, -, hfind, hmax, -⟩ := decodeHttpRequest_eq_some hrequest
        have hlt := (decodeHttpRequest_stable hfind hmax []).length_lt hrequest
        refine iff_of_false ?_ fun hread => ?_
        · exact not_leavesOnErr_of_error hdecode (returned_tryFrom htry) (ne_of_length_lt hlt)
        · obtain ⟨handshake, hok⟩ := hread request rest hrequest hupgrade
          cases htry.symm.trans hok

theorem HttpWsCodec.leavesOnErr_iff (self : HttpWsCodec) (src : BytesMut) :
    LeavesOnErr (decode base64Decode) (self, src) ↔ self.Readable base64Decode src := by
  unfold Readable
  cases hstate : self.state with
  | http =>
    dsimp only
    rw [leavesOnErr_zoom (decode_http hstate src), decodeHttp_leavesOnErr_iff]
  | webSocket =>
    dsimp only
    rw [leavesOnErr_zoom (decode_webSocket hstate src), ← decodeWebsocketFrame_leavesOnErr_iff]
    exact leavesOnErr_map

end WebSocket

/-! ## All four -/

open WebSocket Http

/-- In every state, configuration and buffer: the call leaves everything as it was unless it returns
an item, exactly when the decoder can read whatever is complete at the front of the buffer. -/
theorem decoders_leaveOnErr_iff (base64Decode : List Char → Except String Bytes) :
    (∀ (codec : LineCodec) (src : BytesMut), LeavesOnErr codec.decode src ↔ codec.Readable src) ∧
    (∀ (codec : Mqtt.MqttCodec) (src : BytesMut),
      LeavesOnErr codec.decode src ↔ codec.Readable src) ∧
    (∀ (codec : WebSocketCodec) (src : BytesMut),
      LeavesOnErr (WebSocketCodec.decode base64Decode) (codec, src) ↔
        codec.Readable base64Decode src) ∧
    ∀ (codec : HttpWsCodec) (src : BytesMut),
      LeavesOnErr (HttpWsCodec.decode base64Decode) (codec, src) ↔
        codec.Readable base64Decode src :=
  ⟨LineCodec.leavesOnErr_iff, Mqtt.MqttCodec.leavesOnErr_iff,
    WebSocketCodec.leavesOnErr_iff base64Decode, HttpWsCodec.leavesOnErr_iff base64Decode⟩

/-- A line that is not UTF-8, a packet of the reserved type 0, an empty handshake, and a request for
an upgrade without a version: each is refused once it is taken off the buffer. -/
theorem not_leavesOnErr_taken :
    ¬LeavesOnErr LineCodec.new.decode [0xff, 0x0a] ∧
    ¬LeavesOnErr Mqtt.MqttCodec.new.decode [0, 0] ∧
    ¬LeavesOnErr (WebSocketCodec.decode fun _ => .ok [])
      (WebSocketCodec.server, asBytes "\r\n\r\n") ∧
    ¬LeavesOnErr (HttpWsCodec.decode fun _ => .ok []) (HttpWsCodec.server,
      asBytes "GET / HTTP/1.1\r\nUpgrade: websocket\r\nConnection: upgrade\r\n\r\n") := by
  refine ⟨?_, ?_, ?_, ?_⟩
  · rw [LineCodec.leavesOnErr_iff]
    intro h
    obtain ⟨s, hs⟩ := h [0xff] [] rfl (by decide) (by decide)
    have hbad : (fromUtf8 (LineCodec.stripCr [0xff])).isOk = false := by decide
    rw [hs] at hbad
    cases hbad
  · rw [Mqtt.MqttCodec.leavesOnErr_iff]
    intro h
    obtain ⟨p, hp⟩ := h 0 [] [] (by decide +kernel) (by decide) (by decide)
    have hbad : (Mqtt.decodeBody 0 []).isOk = false := by decide
    rw [hp] at hbad
    cases hbad
  · rw [WebSocketCodec.leavesOnErr_iff]
    intro h
    obtain ⟨handshake, hok⟩ := h 0 (by decide) (by decide)
    have hbad : (WebSocketCodec.readHandshake (fun _ => .ok []) (asBytes "\r\n\r\n") 0).isOk =
        false := by decide
    rw [hok] at hbad
    cases hbad
  · rw [HttpWsCodec.leavesOnErr_iff]
    intro h
    let request : HttpRequest := ⟨"GET".toList, "/".toList, "HTTP/1.1".toList,
      [("Upgrade".toList, "websocket".toList), ("Connection".toList, "upgrade".toList)], [], []⟩
    have hrequest : decodeHttpRequest HttpWsCodec.server.options
        (asBytes "GET / HTTP/1.1\r\nUpgrade: websocket\r\nConnection: upgrade\r\n\r\n") =
          .ok (some request) [] :=
      runOn_eq_ok.1 (by decide +kernel)
    obtain ⟨handshake, hok⟩ := h request [] hrequest (by decide)
    have hbad : (WebSocketHandshake.tryFrom (fun _ => .ok []) request).isOk = false := by
      decide
    rw [hok] at hbad
    cases hbad

end RsNetty

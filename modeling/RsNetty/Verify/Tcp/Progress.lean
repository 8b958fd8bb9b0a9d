import RsNetty.Codec.ByteArray
import RsNetty.Verify.DelimiterBasedFrame
import RsNetty.Verify.LengthFieldBasedFrame
import RsNetty.Verify.Line
import RsNetty.Verify.Mqtt.Framing
import RsNetty.Verify.Tcp.Segmentation
import RsNetty.Verify.WebSocket.Canonical
import RsNetty.Verify.WebSocket.Handshake

/-!
# The decode loop ends

Each built-in decoder takes a part of the front of its buffer for an item and nothing when it asks
for more (`BuiltIn.progressive`), whatever its state is. So a loop over the buffer calls it at most
once for every byte and once more, however the messages are handled.
-/

namespace RsNetty
open EStateM Segmentation

/-! ## Framing decoders -/

theorem LineCodec.progressiveCall (self : LineCodec) (src : BytesMut) :
    ProgressiveCall self.decode src := by
  rcases line_cases src with htail | ⟨line, rest, rfl, hline⟩
  · by_cases hlen : src.length ≤ self.maxLineLen
    · exact .none (decode_tail htail hlen)
    · exact .error (decode_longTail htail (Nat.lt_of_not_le hlen))
  · by_cases hlen : line.length ≤ self.maxLineLen
    · cases hs : fromUtf8 (stripCr line) with
      | ok s =>
        have hsplit : line ++ 0x0a :: rest = (line ++ [0x0a]) ++ rest := by simp
        exact .item (by simp) hsplit (decode_line hline hlen hs rest)
      | error err => exact .error (decode_badLine hline hlen hs rest)
    · exact .error (decode_longLine hline (Nat.lt_of_not_le hlen) rest)

theorem LengthFieldBasedFrameDecoder.progressiveCall (self : LengthFieldBasedFrameDecoder)
    (src : BytesMut) : ProgressiveCall self.decode src := by
  cases hfield : usizeAdd self.lengthFieldOffset self.lengthFieldLength with
  | error e => exact .error (decode_overflow hfield)
  | ok fieldEnd =>
    by_cases hlen : src.length < fieldEnd
    · exact .none (decode_noField hfield hlen)
    · have hlen := Nat.le_of_not_lt hlen
      cases hend : self.frameEnd src fieldEnd with
      | error e => exact .error (decode_malformed hfield hlen hend)
      | ok n =>
        by_cases hshort : src.length < n
        · exact .none (decode_short hfield hlen hend hshort)
        · have hcomplete := Nat.le_of_not_lt hshort
          by_cases hstrip : self.initialBytesToStrip ≤ n
          · have hpos := frameEnd_pos hfield hend
            refine .drop ?_ (decode_complete hfield hlen hend hcomplete hstrip)
            rw [List.length_drop]
            omega
          · exact .error
              (decode_overstripped hfield hlen hend hcomplete (Nat.lt_of_not_le hstrip))

theorem FixedLengthFrameDecoder.progressiveCall (self : FixedLengthFrameDecoder) (src : BytesMut) :
    ProgressiveCall self.decode src := by
  rcases Nat.lt_or_ge src.length self.frameLength with hshort | hlong
  · exact .none (decode_short hshort)
  · have := self.frameLength_pos
    refine .drop ?_ (decode_complete hlong)
    rw [List.length_drop]
    omega

theorem DelimiterBasedFrameDecoder.progressiveCall (self : DelimiterBasedFrameDecoder)
    (src : BytesMut) : ProgressiveCall self.decode src := by
  cases self.step src with
  | more _ _ h => exact .none h
  | item hfind _ h =>
    obtain ⟨⟨d, hd, hfound, rfl⟩, -⟩ := findDelimiter_eq_some hfind
    have hle := Window.find_add_length_le hfound
    have hpos := List.length_pos_iff.2 (self.delimiter_ne_nil d hd)
    refine .drop ?_ h
    rw [List.length_drop]
    omega
  | error _ h => exact .error h

theorem ByteArrayDecoder.progressiveCall (self : ByteArrayDecoder) (src : BytesMut) :
    ProgressiveCall self.decode src := by
  by_cases hempty : src = []
  · refine .none ?_
    rw [decode, get_bind, if_pos hempty]
    rfl
  · have hdecode : self.decode src = .ok (some src) [] := by
      rw [decode, get_bind, if_neg hempty, bind_of_ok (splitTo_ok (Nat.le_refl _)),
        List.take_length, List.drop_length]
      rfl
    exact .item hempty (List.append_nil src).symm hdecode

/-! ## MQTT -/

theorem Mqtt.MqttCodec.progressiveCall (self : MqttCodec) (src : BytesMut) :
    ProgressiveCall self.decode src := by
  rcases decode_cases self src with hnone | ⟨e, -, herror⟩ | ⟨h, body, rest, hlen, hmax, rfl⟩
  · exact .none hnone
  · have hsrc := herror []
    rw [List.append_nil] at hsrc
    exact .error hsrc
  · have hdecode := decode_of_wire hlen hmax h rest
    cases hbody : decodeBody h body with
    | ok p =>
      rw [hbody] at hdecode
      exact .item (List.cons_ne_nil _ _) rfl hdecode
    | error e =>
      rw [hbody] at hdecode
      exact .error hdecode

/-! ## HTTP and WebSocket -/

theorem Http.decodeHttpRequest_progressiveCall (options : HttpDecodeOptions) (src : BytesMut) :
    ProgressiveCall (decodeHttpRequest options) src := by
  cases h : decodeHttpRequest options src with
  | error e rest => exact .error h
  | ok request rest =>
    cases request with
    | none =>
      cases (decodeHttpRequest_unchanged options src).2 rest h
      exact .none h
    | some request =>
      obtain ⟨headerEnd, totalLen, hfind, hmax, -, rfl⟩ := decodeHttpRequest_eq_some h
      exact .drop ((decodeHttpRequest_stable hfind hmax []).length_lt h) h

namespace WebSocket
open Http

theorem decodeWebsocketFrame_progressiveCall (maxFrameLen : Nat) (requireMasked : Bool)
    (src : BytesMut) : ProgressiveCall (decodeWebsocketFrame maxFrameLen requireMasked) src := by
  refine (decodeWebsocketFrame_stable maxFrameLen requireMasked src []).progressiveCall ?_
  intro m rest h
  obtain ⟨layout, -, -, -, rfl⟩ := decodeWebsocketFrame_eq_some h
  exact List.drop_suffix _ _

variable (base64Decode : List Char → Except String Bytes)

theorem WebSocketCodec.progressiveAt (self : WebSocketCodec) (src : BytesMut) :
    ProgressiveAt (decode base64Decode) self src := by
  cases hstate : self.state with
  | handshake =>
    cases hfind : findHttpHeaderEnd src with
    | none =>
      have hdecode : decode base64Decode (self, src) = _ := decode_handshake_none hstate hfind
      split at hdecode
      · exact .error hdecode
      · exact .none hdecode
    | some headerEnd =>
      by_cases hmax : headerEnd ≤ self.maxHttpHeaderLen
      · cases hread : readHandshake base64Decode src headerEnd with
        | ok handshake =>
          have hle := findHttpHeaderEnd_le hfind
          have hlt : (src.drop (headerEnd + 4)).length < src.length := by
            rw [List.length_drop]
            omega
          exact .item (ne_nil_of_drop hlt) (List.take_append_drop _ src).symm
            (decode_handshake_ok hstate hfind hmax hread)
        | error e => exact .error (decode_handshake_error hstate hfind hmax hread)
      · exact .error (decode_handshake_tooLong hstate hfind (Nat.lt_of_not_le hmax))
  | frames =>
    exact (decodeWebsocketFrame_progressiveCall _ _ src).progressiveAt
      (fun _ _ => decode_frames_ok hstate) fun _ _ => decode_frames_error hstate

theorem HttpWsCodec.decodeHttp_progressiveCall (self : HttpWsCodec) (src : BytesMut) :
    ProgressiveCall (self.decodeHttp base64Decode) src := by
  cases decodeHttpRequest_progressiveCall self.options src with
  | none h => exact .none (bind_of_ok h)
  | @item w rest request hw hsrc h =>
    cases hitem : inbound base64Decode request with
    | ok item =>
      have hdecode : self.decodeHttp base64Decode src = .ok (some item) rest := by
        rw [decodeHttp, bind_of_ok h]
        dsimp only
        rw [hitem]
        rfl
      exact .item hw hsrc hdecode
    | error e =>
      have hdecode : self.decodeHttp base64Decode src = .error e rest := by
        rw [decodeHttp, bind_of_ok h]
        dsimp only
        rw [hitem]
        rfl
      exact .error hdecode
  | error h => exact .error (bind_of_error h)

theorem HttpWsCodec.progressiveAt (self : HttpWsCodec) (src : BytesMut) :
    ProgressiveAt (decode base64Decode) self src := by
  cases hstate : self.state with
  | http =>
    refine (decodeHttp_progressiveCall base64Decode self src).progressiveAt (f := id) ?_ ?_
    · intro item rest h
      rw [decode_http hstate, zoom_of_ok (c := Component.snd) h, Option.map_id]
      rfl
    · intro e rest h
      rw [decode_http hstate, zoom_of_error (c := Component.snd) h]
      rfl
  | webSocket =>
    have hframe := decodeWebsocketFrame_progressiveCall self.maxFrameLen
      self.requireMaskedClientFrames src
    refine hframe.progressiveAt (f := .webSocket) ?_ ?_
    · intro m rest h
      have hmessage : self.decodeWebSocket src = .ok (m.map .webSocket) rest := bind_of_ok h
      rw [decode_webSocket hstate, zoom_of_ok (c := Component.snd) hmessage]
      rfl
    · intro e rest h
      have hmessage : self.decodeWebSocket src = .error e rest := bind_of_error h
      rw [decode_webSocket hstate, zoom_of_error (c := Component.snd) hmessage]
      rfl

end WebSocket

/-! ## All nine -/

open WebSocket Http in
/-- The decoders that the crate has for streams, each in any configuration. -/
inductive BuiltIn (base64Decode : List Char → Except String Bytes) :
    {C Item : Type} → Decoder Fault C UInt8 Item → Prop
  | line : BuiltIn base64Decode (stateless LineCodec.decode)
  | lengthField : BuiltIn base64Decode (stateless LengthFieldBasedFrameDecoder.decode)
  | fixedLength : BuiltIn base64Decode (stateless FixedLengthFrameDecoder.decode)
  | delimiter : BuiltIn base64Decode (stateless DelimiterBasedFrameDecoder.decode)
  | byteArray : BuiltIn base64Decode (stateless ByteArrayDecoder.decode)
  | mqtt : BuiltIn base64Decode (stateless Mqtt.MqttCodec.decode)
  | http : BuiltIn base64Decode (stateless HttpCodec.decode)
  | webSocket : BuiltIn base64Decode (WebSocketCodec.decode base64Decode)
  | httpWs : BuiltIn base64Decode (HttpWsCodec.decode base64Decode)

theorem BuiltIn.progressive {base64Decode : List Char → Except String Bytes} {C Item : Type}
    {dec : Decoder Fault C UInt8 Item} (h : BuiltIn base64Decode dec) : Progressive dec := by
  cases h with
  | line => exact progressive_stateless LineCodec.progressiveCall
  | lengthField => exact progressive_stateless LengthFieldBasedFrameDecoder.progressiveCall
  | fixedLength => exact progressive_stateless FixedLengthFrameDecoder.progressiveCall
  | delimiter => exact progressive_stateless DelimiterBasedFrameDecoder.progressiveCall
  | byteArray => exact progressive_stateless ByteArrayDecoder.progressiveCall
  | mqtt => exact progressive_stateless Mqtt.MqttCodec.progressiveCall
  | http =>
    exact progressive_stateless fun codec => Http.decodeHttpRequest_progressiveCall codec.options
  | webSocket => exact progressive_of_at (WebSocket.WebSocketCodec.progressiveAt base64Decode)
  | httpWs => exact progressive_of_at (WebSocket.HttpWsCodec.progressiveAt base64Decode)

/-! ## The loop -/

namespace StreamConnectionRuntime
open StreamState Traced
variable {P : StreamStages}

/-- The decode loop of `handle_read` as the source has it, without a bound: what it ends in and how
many calls of the decoder it makes. -/
inductive DecodeCalls : StreamConnectionRuntime P → Nat →
    EStateM.Result (Exit ConnectionFailure) (StreamConnectionRuntime P) (Option CloseReason) → Prop
  | more : P.decode (rt.io.pipeline.codec, rt.readBuf) = .ok none (codec, b) →
      DecodeCalls rt 1 (.ok none (rt.decoded codec b))
  | refused : P.decode (rt.io.pipeline.codec, rt.readBuf) = .error e (codec, b) →
      DecodeCalls rt 1 (.error (e.exit.map decodeFailure) (rt.decoded codec b))
  | failed : P.decode (rt.io.pipeline.codec, rt.readBuf) = .ok (some msg) (codec, b) →
      (processInboundFlushable msg).result (rt.io.setCodec codec) = .error e s →
      DecodeCalls rt 1 (.error (e.map handlerFailure) (rt.handled s b))
  | closed : P.decode (rt.io.pipeline.codec, rt.readBuf) = .ok (some msg) (codec, b) →
      (processInboundFlushable msg).result (rt.io.setCodec codec) = .ok () s →
      s.ctx.closeRequested = true →
      DecodeCalls rt 1 (.ok (some .handlerClosed) (rt.handled s b))
  | next : P.decode (rt.io.pipeline.codec, rt.readBuf) = .ok (some msg) (codec, b) →
      (processInboundFlushable msg).result (rt.io.setCodec codec) = .ok () s →
      ¬s.ctx.closeRequested = true → DecodeCalls (rt.handled s b) n r → DecodeCalls rt (n + 1) r

variable {rt : StreamConnectionRuntime P}

/-- A bound that is not reached does not show. -/
theorem DecodeCalls.decodeLoop (h : DecodeCalls rt n r) (spare : Nat) :
    (decodeLoop (n + spare)).result rt = r := by
  induction h with
  | more hd =>
    rw [Nat.add_comm, StreamConnectionRuntime.decodeLoop, result_bind_of_ok (decode_ok hd)]
    rfl
  | refused hd =>
    rw [Nat.add_comm, StreamConnectionRuntime.decodeLoop, result_bind_of_error (decode_error hd)]
  | failed hd hm =>
    rw [Nat.add_comm, decodeLoop_some hd]
    simp only [hm]
  | closed hd hm hclose =>
    rw [Nat.add_comm, decodeLoop_some hd]
    simp only [hm, if_pos hclose]
  | next hd hm hopen _ ih =>
    rw [Nat.add_right_comm, decodeLoop_some hd]
    simp only [hm, if_neg hopen]
    exact ih

/-- Every item shortens the buffer, and nothing else touches it. -/
theorem exists_decodeCalls (h : Progressive P.decode) (rt : StreamConnectionRuntime P) :
    ∃ n ≤ rt.readBuf.length + 1, ∃ r, DecodeCalls rt n r := by
  induction hlen : rt.readBuf.length using Nat.strongRecOn generalizing rt with
  | ind len ih =>
    subst hlen
    have hone : 1 ≤ rt.readBuf.length + 1 := Nat.le_add_left 1 _
    cases hd : P.decode (rt.io.pipeline.codec, rt.readBuf) with
    | error e t => exact ⟨1, hone, _, .refused hd⟩
    | ok item t =>
      obtain ⟨codec, b⟩ := t
      cases item with
      | none => exact ⟨1, hone, _, .more hd⟩
      | some msg =>
        cases hm : (processInboundFlushable msg).result (rt.io.setCodec codec) with
        | error e s => exact ⟨1, hone, _, .failed hd hm⟩
        | ok _ s =>
          by_cases hclose : s.ctx.closeRequested = true
          · exact ⟨1, hone, _, .closed hd hm hclose⟩
          · have hlt := h.length_lt hd
            obtain ⟨n, hn, r, hcalls⟩ := ih b.length hlt (rt.handled s b) rfl
            exact ⟨n + 1, by omega, r, .next hd hm hclose hcalls⟩

/-- Every built-in decoder takes a part of the front of its buffer for an item and nothing when it
asks for more, and `handle_read` calls it at most once for each byte that is buffered and once more,
whatever the handlers do. -/
theorem decodeCalls_le {base64Decode : List Char → Except String Bytes}
    (h : BuiltIn base64Decode P.decode) :
    (∀ codec b,
      (∀ item codec' b', P.decode (codec, b) = .ok (some item) (codec', b') →
        ∃ w, w ≠ [] ∧ b = w ++ b') ∧
      ∀ codec' b', P.decode (codec, b) = .ok none (codec', b') → b' = b) ∧
    ∀ (env : Surroundings) (rt : StreamConnectionRuntime P),
      ∃ n ≤ rt.readBuf.length + 1, ∃ r, DecodeCalls rt n r ∧
        (decodeLoop (rt.readBuf.length + 1 + env.spin)).result rt = r := by
  have hprogress := h.progressive
  refine ⟨fun codec b => ⟨fun _ _ _ => hprogress.item, fun _ _ => hprogress.none⟩, ?_⟩
  intro env rt
  obtain ⟨n, hn, r, hcalls⟩ := exists_decodeCalls hprogress rt
  refine ⟨n, hn, r, hcalls, ?_⟩
  have hloop := hcalls.decodeLoop (rt.readBuf.length + 1 - n + env.spin)
  rwa [← Nat.add_assoc, Nat.add_sub_cancel' hn] at hloop

/-- A server that echoes frames of two bytes, with a frame and a half in its buffer. -/
theorem decodeCalls_echo :
    let rt := new {} (FixedLengthFrameDecoder.echoPipeline ⟨2, by decide⟩) {} false
    ∃ n ≤ 4, ∃ r, DecodeCalls { rt with readBuf := [1, 2, 3] } n r := by
  have hdecode : FixedLengthFrameDecoder.echo.decode = stateless FixedLengthFrameDecoder.decode := by
    funext ⟨self, b⟩
    change EStateM.zoom Component.snd self.decode (self, b) = _
    cases h : self.decode b with
    | ok item b' => exact (zoom_of_ok h).trans (stateless_ok h).symm
    | error e b' => exact (zoom_of_error h).trans (stateless_error h).symm
  have hbuiltIn : BuiltIn (fun _ => .error "") FixedLengthFrameDecoder.echo.decode :=
    hdecode ▸ .fixedLength
  obtain ⟨n, hn, r, hcalls, -⟩ := (decodeCalls_le hbuiltIn).2 ⟨fun _ => "", 0⟩
    { new {} (FixedLengthFrameDecoder.echoPipeline ⟨2, by decide⟩) {} false with
      readBuf := [1, 2, 3] }
  exact ⟨n, hn, r, hcalls⟩

end StreamConnectionRuntime

end RsNetty

import RsNetty.Verify.Http.Segmentation
import RsNetty.Verify.WebSocket.Frame

/-!
# WebSocket connections and the cutting of their stream

The handshake shares the header limit of HTTP requests, and with it the one case in which the
cutting matters. Frames do not depend on it.
-/

namespace RsNetty.WebSocket
open EStateM Segmentation Http Str

/-! ## Frames -/

theorem readPayloadLen_append (b r : Bytes) (encodedLen : Nat) :
    readPayloadLen b encodedLen = none ∨
      readPayloadLen (b ++ r) encodedLen = readPayloadLen b encodedLen := by
  have htake {n : Nat} (h : 2 + n ≤ b.length) : ((b ++ r).drop 2).take n = (b.drop 2).take n := by
    rw [List.drop_append_of_le_length (by omega),
      List.take_append_of_le_length (by rw [List.length_drop]; omega)]
  have hlong : b.length ≤ (b ++ r).length := by simp
  unfold readPayloadLen
  by_cases h126 : encodedLen = 126
  · rw [if_pos h126, if_pos h126]
    by_cases hlen : b.length < 4
    · exact .inl (if_pos hlen)
    · right
      rw [if_neg hlen, if_neg (by omega), htake (by omega)]
  · rw [if_neg h126, if_neg h126]
    by_cases h127 : encodedLen = 127
    · rw [if_pos h127, if_pos h127]
      by_cases hlen : b.length < 10
      · exact .inl (if_pos hlen)
      · right
        rw [if_neg hlen, if_neg (by omega), htake (by omega)]
    · rw [if_neg h127, if_neg h127]
      exact .inr rfl

theorem frameLayout_append (maxFrameLen : Nat) (b r : Bytes) :
    frameLayout maxFrameLen b = .ok none ∨
      frameLayout maxFrameLen (b ++ r) = frameLayout maxFrameLen b := by
  match b with
  | [] | [_] => exact .inl rfl
  | first :: second :: rest =>
    rcases readPayloadLen_append (first :: second :: rest) r (second &&& 0x7f).toNat with h | h
    · left
      rw [frameLayout, h]
      rfl
    · right
      rw [List.cons_append, List.cons_append] at h ⊢
      rw [frameLayout, frameLayout, h]

theorem two_le_frameLen (h : frameLayout maxFrameLen b = .ok (some layout)) :
    2 ≤ layout.frameLen := by
  match b with
  | [] | [_] => cases h
  | first :: second :: rest =>
    rw [frameLayout] at h
    cases hlen : readPayloadLen (first :: second :: rest) (second &&& 0x7f).toNat with
    | none =>
      rw [hlen] at h
      cases h
    | some lens =>
      obtain ⟨payloadLen, headerLen⟩ := lens
      have hheader : 2 ≤ headerLen := by
        unfold readPayloadLen at hlen
        split_ifs at hlen <;> cases hlen <;> decide
      rw [hlen] at h
      obtain ⟨_, -, h⟩ := Except.bind_eq_ok.1 h
      obtain ⟨_, -, h⟩ := Except.bind_eq_ok.1 h
      obtain ⟨frameLen, hframe, h⟩ := Except.bind_eq_ok.1 h
      obtain ⟨_, hmask, htotal⟩ := Option.bind_eq_some_iff.1 (okOr_eq_ok.1 hframe)
      obtain ⟨-, rfl⟩ := checkedAdd_eq_some.1 hmask
      obtain ⟨-, rfl⟩ := checkedAdd_eq_some.1 htotal
      cases h
      exact Nat.le_trans hheader (Nat.le_trans (Nat.le_add_right _ _) (Nat.le_add_right _ _))

/-- What the frame decoder decides about a buffer stays decided when more follows. -/
theorem decodeWebsocketFrame_stable (maxFrameLen : Nat) (requireMasked : Bool) (b r : Bytes) :
    StableCall (decodeWebsocketFrame maxFrameLen requireMasked) Eq b r := by
  have happend := frameLayout_append maxFrameLen b r
  cases hlayout : frameLayout maxFrameLen b with
  | error e =>
    rw [hlayout] at happend
    have hbr := happend.resolve_left (fun h => by cases h)
    exact .error (decodeWebsocketFrame_malformed hlayout) (decodeWebsocketFrame_malformed hbr) rfl
  | ok layout =>
    rw [hlayout] at happend
    cases layout with
    | none => exact .none (decodeWebsocketFrame_noLength hlayout)
    | some layout =>
      have hbr := happend.resolve_left (fun h => by cases h)
      by_cases hlen : b.length < layout.frameLen
      · exact .none (decodeWebsocketFrame_short hlayout hlen)
      · have hlen := Nat.le_of_not_lt hlen
        have hlen' : layout.frameLen ≤ (b ++ r).length := by
          rw [List.length_append]
          omega
        have htake : (b ++ r).take layout.frameLen = b.take layout.frameLen :=
          List.take_append_of_le_length hlen
        cases hmessage : frameMessage layout requireMasked (b.take layout.frameLen) with
        | error e =>
          obtain ⟨st, hb⟩ := decodeWebsocketFrame_refused hlayout hlen hmessage
          rw [← htake] at hmessage
          obtain ⟨st', hbr⟩ := decodeWebsocketFrame_refused hbr hlen' hmessage
          exact .error hb hbr rfl
        | ok m =>
          have hb := decodeWebsocketFrame_complete hlayout hlen hmessage
          rw [← htake] at hmessage
          have hbr := decodeWebsocketFrame_complete hbr hlen' hmessage
          rw [List.drop_append_of_le_length hlen] at hbr
          have := two_le_frameLen hlayout
          exact .item hb (by rw [List.length_drop]; omega) hbr

/-- The decoder of frames, called on a buffer again and again. -/
def frameDecoder (maxFrameLen : Nat) (requireMasked : Bool) :
    Decoder Fault Unit UInt8 WebSocketMessage :=
  stateless fun _ => decodeWebsocketFrame maxFrameLen requireMasked

theorem frameDecoder_sim (maxFrameLen : Nat) (requireMasked : Bool) (chunks : List Bytes) :
    Sim Eq (feed (frameDecoder maxFrameLen requireMasked) () [] chunks)
      (feed (frameDecoder maxFrameLen requireMasked) () [] [chunks.flatten]) := by
  have hnil : frameDecoder maxFrameLen requireMasked ((), []) = .ok none ((), []) :=
    stateless_ok (decodeWebsocketFrame_noLength rfl)
  refine feed_sim hnil fun _ b cs _ => ?_
  exact StableCall.stateless (f := fun _ => decodeWebsocketFrame maxFrameLen requireMasked)
    (decodeWebsocketFrame_stable maxFrameLen requireMasked b cs.flatten)

/-- However a stream of frames is cut into chunks, the decoder comes to an end with the same
messages, the same error or none, and the same leftover. -/
theorem frameDecoder_feed_flatten (maxFrameLen : Nat) (requireMasked : Bool)
    (chunks : List Bytes) :
    feed (frameDecoder maxFrameLen requireMasked) () [] chunks =
        feed (frameDecoder maxFrameLen requireMasked) () [] [chunks.flatten] ∧
      (feed (frameDecoder maxFrameLen requireMasked) () [] chunks).2 ≠ .stuck := by
  have hsim := frameDecoder_sim maxFrameLen requireMasked chunks
  refine ⟨hsim.eq, ?_⟩
  rw [hsim.eq]
  exact hsim.ne_stuck

namespace WebSocketCodec

theorem onBuffer_ok {x : Exec BytesMut α} (h : x b = .ok a b') (self : WebSocketCodec) :
    onBuffer x (self, b) = .ok a (self, b') := by
  simp only [onBuffer, h]

theorem onBuffer_error {x : Exec BytesMut α} (h : x b = .error e b') (self : WebSocketCodec) :
    onBuffer x (self, b) = .error e (self, b') := by
  simp only [onBuffer, h]

section Calls
variable {base64Decode : List Char → Except String Bytes} {self : WebSocketCodec}

theorem decode_frames_ok (hstate : self.state = .frames)
    (h : decodeWebsocketFrame self.maxFrameLen self.requireMaskedClientFrames b = .ok m b') :
    decode base64Decode (self, b) = .ok (m.map .ofMessage) (self, b') := by
  simp only [decode, get_bind, hstate, decodeFrame]
  rw [bind_of_ok (onBuffer_ok h self)]
  rfl

theorem decode_frames_error (hstate : self.state = .frames)
    (h : decodeWebsocketFrame self.maxFrameLen self.requireMaskedClientFrames b = .error e b') :
    decode base64Decode (self, b) = .error e (self, b') := by
  simp only [decode, get_bind, hstate, decodeFrame]
  rw [bind_of_error (onBuffer_error h self)]

theorem decode_handshake_none (hstate : self.state = .handshake)
    (hfind : findHttpHeaderEnd b = none) :
    decode base64Decode (self, b) =
      if b.length > self.maxHttpHeaderLen then
        .error (.err (.frameTooLarge b.length self.maxHttpHeaderLen)) (self, b)
      else .ok none (self, b) := by
  simp only [decode, get_bind, hstate, decodeHandshake, hfind, failIf]
  by_cases hlen : b.length > self.maxHttpHeaderLen
  · rw [if_pos hlen, if_pos hlen]
    rfl
  · rw [if_neg hlen, if_neg hlen]
    rfl

theorem decode_handshake_tooLong (hstate : self.state = .handshake)
    (hfind : findHttpHeaderEnd b = some headerEnd) (hmax : headerEnd > self.maxHttpHeaderLen) :
    decode base64Decode (self, b) =
      .error (.err (.frameTooLarge headerEnd self.maxHttpHeaderLen)) (self, b) := by
  simp only [decode, get_bind, hstate, decodeHandshake, hfind, failIf, if_pos hmax]
  rfl

end Calls

/-- The handshake whose head ends at `headerEnd`. -/
def readHandshake (base64Decode : List Char → Except String Bytes) (src : Bytes)
    (headerEnd : Nat) : Result WebSocketHandshake := do
  parseHandshake base64Decode
    (← strFromUtf8 "websocket handshake is not utf-8" (src.take (headerEnd + 4)))

section Handshake
variable {base64Decode : List Char → Except String Bytes} {self : WebSocketCodec}

theorem readHandshake_append {b : Bytes} (hle : headerEnd + 4 ≤ b.length) (r : Bytes) :
    readHandshake base64Decode (b ++ r) headerEnd = readHandshake base64Decode b headerEnd := by
  rw [readHandshake, readHandshake, List.take_append_of_le_length hle]

theorem decode_handshake_ok (hstate : self.state = .handshake)
    (hfind : findHttpHeaderEnd b = some headerEnd) (hmax : headerEnd ≤ self.maxHttpHeaderLen)
    (h : readHandshake base64Decode b headerEnd = .ok handshake) :
    decode base64Decode (self, b) =
      .ok (some (.handshake handshake)) ({ self with state := .frames }, b.drop (headerEnd + 4)) := by
  obtain ⟨text, htext, hparse⟩ := Except.bind_eq_ok.1 h
  simp only [decode, get_bind, hstate, decodeHandshake, hfind,
    failIf_eq_ok.2 (Nat.not_lt.2 hmax), Exec.call_ok]
  rw [bind_of_ok (onBuffer_ok (splitTo_ok (findHttpHeaderEnd_le hfind)) self), htext,
    Exec.call_ok, hparse, Exec.call_ok]
  rfl

/-- A head within the limit is taken off the buffer before it is looked at. -/
theorem decode_handshake_error (hstate : self.state = .handshake)
    (hfind : findHttpHeaderEnd b = some headerEnd) (hmax : headerEnd ≤ self.maxHttpHeaderLen)
    (h : readHandshake base64Decode b headerEnd = .error e) :
    decode base64Decode (self, b) = .error e (self, b.drop (headerEnd + 4)) := by
  simp only [decode, get_bind, hstate, decodeHandshake, hfind,
    failIf_eq_ok.2 (Nat.not_lt.2 hmax), Exec.call_ok]
  rw [bind_of_ok (onBuffer_ok (splitTo_ok (findHttpHeaderEnd_le hfind)) self)]
  rcases Except.bind_eq_error.1 h with htext | ⟨text, htext, hparse⟩
  · rw [htext]
    rfl
  · rw [htext, Exec.call_ok, hparse]
    rfl

theorem headLimited (hstate : self.state = .handshake) :
    HeadLimited (decode base64Decode) self self.maxHttpHeaderLen where
  short hb hlen := (decode_handshake_none hstate hb).trans (if_neg (Nat.not_lt.2 hlen))
  long hb hlen := ⟨_, _, (decode_handshake_none hstate hb).trans (if_pos hlen)⟩
  tooLong hb hmax := ⟨_, _, decode_handshake_tooLong hstate hb hmax⟩
  found {b headerEnd} hb hmax r := by
    have hle := findHttpHeaderEnd_le hb
    have hbr := Window.find_append_of_eq_some hb r
    have hread : readHandshake base64Decode (b ++ r) headerEnd = _ := readHandshake_append hle r
    cases h : readHandshake base64Decode b headerEnd with
    | error e =>
      have hdecode := decode_handshake_error hstate hb hmax h
      have hlong := decode_handshake_error hstate hbr hmax (hread.trans h)
      exact HeadLimited.stableAt_of_errors ⟨e, _, hdecode⟩ ⟨e, _, hlong⟩
    | ok handshake =>
      rw [StableAt, decode_handshake_ok hstate hb hmax h,
        decode_handshake_ok hstate hbr hmax (hread.trans h),
        List.drop_append_of_le_length hle]
      exact ⟨by rw [List.length_drop]; omega, rfl⟩

theorem error_iff (hstate : self.state = .handshake)
    (hfind : findHttpHeaderEnd src = some headerEnd) (hmax : headerEnd ≤ self.maxHttpHeaderLen) :
    (∃ e st, decode base64Decode (self, src) = .error e st) ↔
      ∃ e, readHandshake base64Decode src headerEnd = .error e := by
  cases h : readHandshake base64Decode src headerEnd with
  | error e =>
    exact iff_of_true ⟨e, _, decode_handshake_error hstate hfind hmax h⟩ ⟨e, rfl⟩
  | ok handshake =>
    refine iff_of_false ?_ (fun ⟨e, h⟩ => by cases h)
    rintro ⟨e, st, herror⟩
    cases herror.symm.trans (decode_handshake_ok hstate hfind hmax h)

end Handshake

/-! ## Runs -/

variable (base64Decode : List Char → Except String Bytes)

theorem frames_stableAt {self : WebSocketCodec} (hstate : self.state = .frames) (b r : Bytes) :
    StableAt (decode base64Decode) Eq self b r :=
  (decodeWebsocketFrame_stable self.maxFrameLen self.requireMaskedClientFrames b r).stableAt
    (fun _ _ _ => decode_frames_ok hstate) fun _ _ _ => decode_frames_error hstate

theorem stableOrBreaks : StableOrBreaks (decode base64Decode) := by
  intro self b r
  cases hstate : self.state with
  | handshake => exact (headLimited hstate).stable_or_breaks b r
  | frames => exact .inl ((frames_stableAt base64Decode hstate b r).mono fun _ _ _ => trivial)

theorem decode_nil (self : WebSocketCodec) :
    decode base64Decode (self, []) = .ok none (self, []) := by
  cases hstate : self.state with
  | handshake => exact (headLimited hstate).nil
  | frames => exact decode_frames_ok hstate (decodeWebsocketFrame_noLength rfl)

theorem breaksAt_iff (self : WebSocketCodec) (b r : Bytes) :
    BreaksAt (decode base64Decode) self b r ↔
      self.state = .handshake ∧ ∃ headerEnd, CutInBlankLine self.maxHttpHeaderLen b r headerEnd ∧
        ¬∃ e, readHandshake base64Decode (b ++ r) headerEnd = .error e := by
  cases hstate : self.state with
  | frames =>
    refine iff_of_false (frames_stableAt base64Decode hstate b r).not_breaksAt ?_
    exact fun h => nomatch h.1
  | handshake =>
    rw [(headLimited hstate).breaksAt_iff, eq_self, true_and]
    constructor
    · rintro ⟨headerEnd, hcut, herror⟩
      exact ⟨headerEnd, hcut, fun h => herror ((error_iff hstate hcut.2.2.1 hcut.2.2.2).2 h)⟩
    · rintro ⟨headerEnd, hcut, hrefused⟩
      exact ⟨headerEnd, hcut, fun h => hrefused ((error_iff hstate hcut.2.2.1 hcut.2.2.2).1 h)⟩

/-- On a connection that starts with the handshake the cutting of the stream does not matter exactly
when no chunk ends inside the blank line of a handshake that is within the limit while the buffer
is over it, save for a handshake that is refused in any case. -/
theorem feed_sameOutcome_iff (self : WebSocketCodec) (chunks : List Bytes) :
    SameOutcome (feed (decode base64Decode) self [] chunks)
        (feed (decode base64Decode) self [] [chunks.flatten]) ↔
      ∀ self' b cs headerEnd, FeedCalls (decode base64Decode) self [] chunks self' b cs →
        self'.state = .handshake →
        CutInBlankLine self'.maxHttpHeaderLen b cs.flatten headerEnd →
        ∃ e, readHandshake base64Decode (b ++ cs.flatten) headerEnd = .error e := by
  rw [Segmentation.feed_sameOutcome_iff (stableOrBreaks base64Decode) (decode_nil base64Decode self)]
  constructor
  · intro h self' b cs headerEnd hcall hstate hcut
    by_contra hrefused
    exact h self' b cs hcall
      ((breaksAt_iff base64Decode self' b _).2 ⟨hstate, headerEnd, hcut, hrefused⟩)
  · intro h self' b cs hcall hbreaks
    obtain ⟨hstate, headerEnd, hcut, hrefused⟩ := (breaksAt_iff base64Decode self' b _).1 hbreaks
    exact hrefused (h self' b cs headerEnd hcall hstate hcut)

end WebSocketCodec

/-- Neither the requests of an HTTP connection nor the items of a WebSocket connection depend on how
the stream is cut, exactly as long as no chunk ends inside the blank line of an acceptable head
that is within the header limit while the buffer is over it. -/
theorem feed_requests_handshake_iff (http : HttpCodec) (webSocket : WebSocketCodec)
    (base64Decode : List Char → Except String Bytes) (chunks : List Bytes) :
    (SameOutcome (feed (stateless HttpCodec.decode) http [] chunks)
        (feed (stateless HttpCodec.decode) http [] [chunks.flatten]) ↔
      ∀ b cs headerEnd, FeedCalls (stateless HttpCodec.decode) http [] chunks http b cs →
        CutInBlankLine http.maxHeaderLen b cs.flatten headerEnd →
        RequestRefused http.options (b ++ cs.flatten) headerEnd) ∧
    (SameOutcome (feed (WebSocketCodec.decode base64Decode) webSocket [] chunks)
        (feed (WebSocketCodec.decode base64Decode) webSocket [] [chunks.flatten]) ↔
      ∀ codec b cs headerEnd,
        FeedCalls (WebSocketCodec.decode base64Decode) webSocket [] chunks codec b cs →
        codec.state = .handshake →
        CutInBlankLine codec.maxHttpHeaderLen b cs.flatten headerEnd →
        ∃ e, WebSocketCodec.readHandshake base64Decode (b ++ cs.flatten) headerEnd = .error e) :=
  ⟨http.feed_sameOutcome_iff chunks,
    WebSocketCodec.feed_sameOutcome_iff base64Decode webSocket chunks⟩

/-- A head of 14 bytes and a limit of 14: the request is decoded from one chunk, and refused when
the chunk ends behind the first byte of the blank line. -/
theorem not_sameOutcome_cut :
    ¬SameOutcome
      (feed (stateless HttpCodec.decode) ⟨14, 0, false, false⟩ []
        [asBytes "GET / HTTP/1.1\r", asBytes "\n\r\n"])
      (feed (stateless HttpCodec.decode) ⟨14, 0, false, false⟩ []
        [[asBytes "GET / HTTP/1.1\r", asBytes "\n\r\n"].flatten]) := by
  intro h
  have hcut : HttpCodec.decode ⟨14, 0, false, false⟩ (asBytes "GET / HTTP/1.1\r") = _ :=
    (decodeHttpRequest_none (by decide)).trans (if_pos (by decide))
  have hwhole : HttpCodec.decode ⟨14, 0, false, false⟩ (asBytes "GET / HTTP/1.1\r\n\r\n") =
      .ok (some ⟨"GET".toList, "/".toList, "HTTP/1.1".toList, [], [], []⟩) [] :=
    runOn_eq_ok.1 (by decide)
  have hlen : ([] : Bytes).length < (asBytes "GET / HTTP/1.1\r\n\r\n").length := by decide
  have hflat : [asBytes "GET / HTTP/1.1\r", asBytes "\n\r\n"].flatten =
      asBytes "GET / HTTP/1.1\r\n\r\n" := by decide
  rw [feed_cons, List.nil_append, drain_error (stateless_error hcut), feed_single, hflat,
    List.nil_append, drain_item (stateless_ok hwhole) hlen] at h
  cases h.1

end RsNetty.WebSocket

import RsNetty.Codec.WebSocket
import RsNetty.Theory.Segmentation

/-!
# WebSocket frames

`wire opcode key payload` is the frame of a payload, masked with the key if there is one. The
encoder writes the unmasked frame (`encodeWebsocketOutbound_eq_ok`), and the decoder reads both
(`decodeWebsocketFrame_wire`).
-/

namespace RsNetty.WebSocket
open EStateM Segmentation

/-! ## Masking -/

@[simp] theorem length_applyMask (mask payload : Bytes) :
    (applyMask mask payload).length = payload.length := by
  simp [applyMask]

/-- Byte `i` is xored with byte `i % 4` of the key. -/
theorem getElem?_applyMask {key payload : Bytes} {i : Nat} {byte k : UInt8}
    (hbyte : payload[i]? = some byte) (hk : key[i % 4]? = some k) :
    (applyMask key payload)[i]? = some (byte ^^^ k) := by
  rw [applyMask, List.getElem?_mapIdx, hbyte, List.getD_eq_getElem?_getD, hk]
  rfl

/-- Masking twice with one key is no masking. -/
@[simp] theorem applyMask_applyMask (mask payload : Bytes) :
    applyMask mask (applyMask mask payload) = payload := by
  rw [applyMask, applyMask, List.mapIdx_mapIdx]
  apply List.ext_getElem
  · simp
  · intro i h₁ h₂
    simp only [List.getElem_mapIdx, Function.comp_apply]
    rw [UInt8.xor_assoc, UInt8.xor_self, UInt8.xor_zero]

/-! ## One call -/

/-- The message of a complete frame. -/
def frameMessage (layout : FrameLayout) (requireMasked : Bool) (frame : Bytes) :
    Result WebSocketMessage := do
  validateFrameHeader layout.fin layout.rsv layout.opcode layout.masked layout.payloadLen
    requireMasked
  decodePayload layout.opcode (framePayload layout frame)

section Call
variable {src : BytesMut} {maxFrameLen : Nat} {requireMasked : Bool}

theorem decodeWebsocketFrame_malformed (h : frameLayout maxFrameLen src = .error e) :
    decodeWebsocketFrame maxFrameLen requireMasked src = .error e src := by
  rw [decodeWebsocketFrame, get_bind, h]
  rfl

theorem decodeWebsocketFrame_noLength (h : frameLayout maxFrameLen src = .ok none) :
    decodeWebsocketFrame maxFrameLen requireMasked src = .ok none src := by
  rw [decodeWebsocketFrame, get_bind, h]
  rfl

theorem decodeWebsocketFrame_short (h : frameLayout maxFrameLen src = .ok (some layout))
    (hlen : src.length < layout.frameLen) :
    decodeWebsocketFrame maxFrameLen requireMasked src = .ok none src := by
  rw [decodeWebsocketFrame, get_bind, h, Exec.call_ok]
  simp only
  rw [if_pos hlen]
  rfl

theorem decodeWebsocketFrame_complete (h : frameLayout maxFrameLen src = .ok (some layout))
    (hlen : layout.frameLen ≤ src.length)
    (hm : frameMessage layout requireMasked (src.take layout.frameLen) = .ok m) :
    decodeWebsocketFrame maxFrameLen requireMasked src =
      .ok (some m) (src.drop layout.frameLen) := by
  obtain ⟨_, hvalid, hpayload⟩ := Except.bind_eq_ok.1 hm
  rw [decodeWebsocketFrame, get_bind, h, Exec.call_ok]
  simp only
  rw [if_neg (Nat.not_lt.2 hlen), hvalid, Exec.call_ok, bind_of_ok (splitTo_ok hlen), hpayload,
    Exec.call_ok]
  rfl

/-- A frame is refused for its header before it is taken off the buffer. -/
theorem decodeWebsocketFrame_badHeader (h : frameLayout maxFrameLen src = .ok (some layout))
    (hlen : layout.frameLen ≤ src.length)
    (hvalid : validateFrameHeader layout.fin layout.rsv layout.opcode layout.masked
      layout.payloadLen requireMasked = .error e) :
    decodeWebsocketFrame maxFrameLen requireMasked src = .error e src := by
  rw [decodeWebsocketFrame, get_bind, h, Exec.call_ok]
  simp only
  rw [if_neg (Nat.not_lt.2 hlen), hvalid]
  rfl

/-- It is refused for its payload afterwards. -/
theorem decodeWebsocketFrame_badPayload (h : frameLayout maxFrameLen src = .ok (some layout))
    (hlen : layout.frameLen ≤ src.length)
    (hvalid : validateFrameHeader layout.fin layout.rsv layout.opcode layout.masked
      layout.payloadLen requireMasked = .ok ())
    (hpayload : decodePayload layout.opcode (framePayload layout (src.take layout.frameLen)) =
      .error e) :
    decodeWebsocketFrame maxFrameLen requireMasked src = .error e (src.drop layout.frameLen) := by
  rw [decodeWebsocketFrame, get_bind, h, Exec.call_ok]
  simp only
  rw [if_neg (Nat.not_lt.2 hlen), hvalid, Exec.call_ok, bind_of_ok (splitTo_ok hlen), hpayload]
  rfl

theorem decodeWebsocketFrame_refused (h : frameLayout maxFrameLen src = .ok (some layout))
    (hlen : layout.frameLen ≤ src.length)
    (hm : frameMessage layout requireMasked (src.take layout.frameLen) = .error e) :
    ∃ st, decodeWebsocketFrame maxFrameLen requireMasked src = .error e st := by
  rcases Except.bind_eq_error.1 hm with hvalid | ⟨_, hvalid, hpayload⟩
  · exact ⟨src, decodeWebsocketFrame_badHeader h hlen hvalid⟩
  · exact ⟨_, decodeWebsocketFrame_badPayload h hlen hvalid hpayload⟩

end Call

/-! ## The frame of a payload -/

/-- The low seven bits of the second byte. -/
def lenKind (payloadLen : Nat) : UInt8 :=
  if payloadLen ≤ 125 then UInt8.ofNat payloadLen else if payloadLen ≤ 65535 then 126 else 127

/-- The extended payload length. -/
def extendedLen (payloadLen : Nat) : Bytes :=
  if payloadLen ≤ 125 then []
  else if payloadLen ≤ 65535 then u16ToBeBytes (UInt16.ofNat payloadLen)
  else u64ToBeBytes (UInt64.ofNat payloadLen)

def maskBit (masked : Bool) : UInt8 := if masked then 0x80 else 0

def maskWith (key : Option Bytes) (payload : Bytes) : Bytes :=
  key.elim payload (applyMask · payload)

/-- The frame with the given payload, masked if there is a key. -/
def wire (opcode : UInt8) (key : Option Bytes) (payload : Bytes) : Bytes :=
  (0x80 ||| opcode) :: (maskBit key.isSome ||| lenKind payload.length) ::
    (extendedLen payload.length ++ (key.getD [] ++ maskWith key payload))

@[simp] theorem length_maskWith (key : Option Bytes) (payload : Bytes) :
    (maskWith key payload).length = payload.length := by
  cases key <;> simp [maskWith]

theorem lenKind_toNat (payloadLen : Nat) :
    (lenKind payloadLen).toNat =
      if payloadLen ≤ 125 then payloadLen else if payloadLen ≤ 65535 then 126 else 127 := by
  unfold lenKind
  split
  case isTrue h => exact UInt8.toNat_ofNat_of_lt' (Nat.lt_of_le_of_lt h (by decide))
  case isFalse => split <;> rfl

theorem lenKind_lt (payloadLen : Nat) : (lenKind payloadLen).toNat < 128 := by
  rw [lenKind_toNat]
  split
  · omega
  · split <;> omega

theorem maskBit_or (masked : Bool) {b : UInt8} (h : b.toNat < 128) :
    (maskBit masked ||| b) &&& 0x7f = b ∧ ((maskBit masked ||| b) &&& 0x80 != 0) = masked := by
  have hbyte : ∀ masked, ∀ b : UInt8, b.toNat < 128 →
      (maskBit masked ||| b) &&& 0x7f = b ∧ ((maskBit masked ||| b) &&& 0x80 != 0) = masked := by
    intro masked
    cases masked <;> exact forall_byte (by decide +kernel)
  exact hbyte masked b h

theorem opcode_or {opcode : UInt8} (h : opcode.toNat < 16) :
    ((0x80 ||| opcode) &&& 0x80 != 0) = true ∧ (0x80 ||| opcode) &&& 0x70 = 0 ∧
      (0x80 ||| opcode) &&& 0x0f = opcode := by
  have hbyte : ∀ b : UInt8, b.toNat < 16 → ((0x80 ||| b) &&& 0x80 != 0) = true ∧
      (0x80 ||| b) &&& 0x70 = 0 ∧ (0x80 ||| b) &&& 0x0f = b := forall_byte (by decide +kernel)
  exact hbyte opcode h

theorem validatePayloadLenEncoding_lenKind {payloadLen : Nat} (h : payloadLen ≤ isizeMax) :
    validatePayloadLenEncoding (lenKind payloadLen).toNat payloadLen = .ok () := by
  have hkind := lenKind_toNat payloadLen
  rw [isizeMax] at h
  rw [validatePayloadLenEncoding, failIf_eq_ok.2, Except.ok_bind, failIf_eq_ok.2, Except.ok_bind,
    failIf_eq_ok.2]
  all_goals
    rintro ⟨h₁, h₂⟩
    rw [hkind] at h₁
    split_ifs at h₁ <;> omega

theorem readPayloadLen_wire {payloadLen : Nat} (h : payloadLen ≤ isizeMax) (b₀ b₁ : UInt8)
    (rest : Bytes) :
    readPayloadLen (b₀ :: b₁ :: (extendedLen payloadLen ++ rest)) (lenKind payloadLen).toNat =
      some (payloadLen, 2 + (extendedLen payloadLen).length) := by
  rw [isizeMax] at h
  rw [lenKind_toNat, readPayloadLen, extendedLen]
  by_cases hsmall : payloadLen ≤ 125
  · rw [if_pos hsmall, if_pos hsmall, if_neg (by omega), if_neg (by omega)]
    rfl
  · rw [if_neg hsmall, if_neg hsmall]
    by_cases hmedium : payloadLen ≤ 65535
    · rw [if_pos hmedium, if_pos hmedium, if_pos rfl, if_neg (by simp)]
      have htake : ((b₀ :: b₁ :: (u16ToBeBytes (UInt16.ofNat payloadLen) ++ rest)).drop 2).take 2 =
          u16ToBeBytes (UInt16.ofNat payloadLen) := List.take_left' (length_u16ToBeBytes _)
      rw [htake, u16FromBeBytes_toBeBytes,
        UInt16.toNat_ofNat_of_lt' (Nat.lt_of_le_of_lt hmedium (by decide)), length_u16ToBeBytes]
    · rw [if_neg hmedium, if_neg hmedium, if_neg (by decide), if_pos rfl, if_neg (by simp)]
      have htake : ((b₀ :: b₁ :: (u64ToBeBytes (UInt64.ofNat payloadLen) ++ rest)).drop 2).take 8 =
          u64ToBeBytes (UInt64.ofNat payloadLen) := List.take_left' (length_u64ToBeBytes _)
      rw [htake, u64FromBeBytes_toBeBytes,
        UInt64.toNat_ofNat_of_lt' (Nat.lt_of_le_of_lt h (by decide)), length_u64ToBeBytes]

theorem length_extendedLen_le (payloadLen : Nat) : (extendedLen payloadLen).length ≤ 8 := by
  unfold extendedLen
  split
  · simp
  · split <;> simp

/-- The length of the frame. -/
def wireLen (masked : Bool) (payloadLen : Nat) : Nat :=
  2 + (extendedLen payloadLen).length + (if masked then 4 else 0) + payloadLen

theorem length_wire {key : Option Bytes} (hkey : ∀ k ∈ key, k.length = 4) (opcode : UInt8)
    (payload : Bytes) : (wire opcode key payload).length = wireLen key.isSome payload.length := by
  rw [wire, wireLen]
  simp only [List.length_cons, List.length_append, length_maskWith]
  cases key with
  | none =>
    simp
    omega
  | some k =>
    simp [hkey k rfl]
    omega

def wireLayout (opcode : UInt8) (masked : Bool) (payloadLen : Nat) : FrameLayout where
  fin := true
  rsv := 0
  opcode := opcode
  masked := masked
  payloadLen := payloadLen
  headerLen := 2 + (extendedLen payloadLen).length
  frameLen := wireLen masked payloadLen

theorem frameLayout_wire {opcode : UInt8} {key : Option Bytes} {payload : Bytes}
    (hopcode : opcode.toNat < 16) (hlen : payload.length ≤ isizeMax)
    (hmax : payload.length ≤ maxFrameLen) (r : Bytes) :
    frameLayout maxFrameLen (wire opcode key payload ++ r) =
      .ok (some (wireLayout opcode key.isSome payload.length)) := by
  obtain ⟨hkind, hmasked⟩ := maskBit_or key.isSome (lenKind_lt payload.length)
  obtain ⟨hfin, hrsv, hop⟩ := opcode_or hopcode
  have hext := length_extendedLen_le payload.length
  have htotal : ((checkedAdd (2 + (extendedLen payload.length).length)
      (if key.isSome then 4 else 0)).bind (checkedAdd · payload.length)) =
      some (wireLen key.isSome payload.length) := by
    rw [isizeMax] at hlen
    have hmask : (if key.isSome then 4 else 0) ≤ 4 := by split <;> omega
    rw [checkedAdd_of_le (by rw [usizeMax]; omega), Option.bind_some,
      checkedAdd_of_le (by rw [usizeMax]; omega)]
    rfl
  rw [wire, List.cons_append, List.cons_append, List.append_assoc, frameLayout]
  simp only [hkind, hmasked, readPayloadLen_wire hlen, validatePayloadLenEncoding_lenKind hlen,
    Except.ok_bind, failIf_eq_ok.2 (Nat.not_lt.2 hmax), htotal, okOr, hfin, hrsv, hop]
  rfl

theorem framePayload_wire {key : Option Bytes} (hkey : ∀ k ∈ key, k.length = 4) (opcode : UInt8)
    (payload : Bytes) :
    framePayload (wireLayout opcode key.isSome payload.length) (wire opcode key payload) =
      payload := by
  have hdrop : (wire opcode key payload).drop (2 + (extendedLen payload.length).length) =
      key.getD [] ++ maskWith key payload := by
    rw [wire, Nat.add_comm, List.drop_succ_cons, List.drop_succ_cons, List.drop_left]
  rw [framePayload]
  simp only [wireLayout, FrameLayout.maskLen, hdrop]
  cases key with
  | none => simp [maskWith]
  | some k =>
    have hk := hkey k rfl
    simp only [Option.isSome_some, if_true, Option.getD_some, maskWith, Option.elim_some]
    rw [List.take_left' hk, List.drop_left' hk,
      List.take_of_length_le (by rw [length_applyMask]), applyMask_applyMask]

theorem validateFrameHeader_eq_ok {fin masked requireMask : Bool} {rsv opcode : UInt8} :
    validateFrameHeader fin rsv opcode masked payloadLen requireMask = .ok () ↔
      (requireMask = true → masked = true) ∧ rsv = 0 ∧ fin = true ∧
        ((0x8 ≤ opcode ∧ opcode ≤ 0xa) → payloadLen ≤ 125) := by
  constructor
  · intro h
    obtain ⟨_, hmask, h⟩ := Except.bind_eq_ok.1 h
    obtain ⟨_, hrsv, h⟩ := Except.bind_eq_ok.1 h
    obtain ⟨_, -, h⟩ := Except.bind_eq_ok.1 h
    obtain ⟨_, hcontrol, hfin⟩ := Except.bind_eq_ok.1 h
    have hmask := failIf_eq_ok.1 hmask
    have hrsv := failIf_eq_ok.1 hrsv
    have hcontrol := failIf_eq_ok.1 hcontrol
    have hfin := failIf_eq_ok.1 hfin
    refine ⟨fun h => ?_, by simpa using hrsv, by simpa using hfin, fun h => ?_⟩
    · simpa [h] using hmask
    · exact Nat.le_of_not_lt fun hlen => hcontrol ⟨h, hlen⟩
  · rintro ⟨hmask, rfl, rfl, hcontrol⟩
    have hmask' : ¬(requireMask && !masked) = true := by
      cases requireMask with
      | false => simp
      | true => simp [hmask rfl]
    rw [validateFrameHeader, failIf_eq_ok.2 hmask', Except.ok_bind, failIf_eq_ok.2 (by simp),
      Except.ok_bind, failIf_eq_ok.2 (by simp), Except.ok_bind, failIf_eq_ok.2, Except.ok_bind,
      failIf_eq_ok.2 (by simp)]
    rintro ⟨h, hlen⟩
    exact absurd (hcontrol h) (Nat.not_le.2 hlen)

/-- The decoder reads a frame off the buffer, whatever follows. -/
theorem decodeWebsocketFrame_wire {opcode : UInt8} {key : Option Bytes} {payload : Bytes}
    {m : WebSocketMessage} (hopcode : opcode.toNat < 16) (hkey : ∀ k ∈ key, k.length = 4)
    (hlen : payload.length ≤ isizeMax) (hmax : payload.length ≤ maxFrameLen)
    (hmask : requireMasked = true → key.isSome = true)
    (hcontrol : 8 ≤ opcode.toNat → payload.length ≤ 125)
    (hpayload : decodePayload opcode payload = .ok m) (r : Bytes) :
    decodeWebsocketFrame maxFrameLen requireMasked (wire opcode key payload ++ r) =
      .ok (some m) r := by
  have hwire := length_wire hkey opcode payload
  have htake : (wireLayout opcode key.isSome payload.length).frameLen ≤
      (wire opcode key payload ++ r).length := by
    rw [wireLayout, ← hwire, List.length_append]
    exact Nat.le_add_right _ _
  have hframe : (wire opcode key payload ++ r).take (wireLen key.isSome payload.length) =
      wire opcode key payload := List.take_left' hwire
  have hdrop : (wire opcode key payload ++ r).drop (wireLen key.isSome payload.length) = r :=
    List.drop_left' hwire
  have hmessage : frameMessage (wireLayout opcode key.isSome payload.length) requireMasked
      (wire opcode key payload) = .ok m := by
    have hvalid : validateFrameHeader true 0 opcode key.isSome payload.length requireMasked = .ok () :=
      validateFrameHeader_eq_ok.2
        ⟨hmask, rfl, rfl, fun h => hcontrol (UInt8.le_iff_toNat_le.1 h.1)⟩
    rw [frameMessage, framePayload_wire hkey]
    exact Except.bind_eq_ok.2 ⟨(), hvalid, hpayload⟩
  rw [← hframe] at hmessage
  have := decodeWebsocketFrame_complete (frameLayout_wire hopcode hlen hmax r) htake hmessage
  rwa [wireLayout, hdrop] at this

/-! ## The encoder -/

namespace WebSocketMessage

def opcode : WebSocketMessage → UInt8
  | .text _ => 0x1
  | .binary _ => 0x2
  | .close _ => 0x8
  | .ping _ => 0x9
  | .pong _ => 0xa

def payload : WebSocketMessage → Bytes
  | .text value => asBytes value
  | .binary bytes => bytes
  | .close none => []
  | .close (some value) => u16ToBeBytes value.code ++ asBytes value.reason
  | .ping bytes => bytes
  | .pong bytes => bytes

theorem opcode_lt (m : WebSocketMessage) : m.opcode.toNat < 16 := by
  cases m <;> simp [opcode]

end WebSocketMessage

theorem emits_encodeFrame (opcode : UInt8) (payload : Bytes) :
    Emits (encodeFrame opcode payload) () (wire opcode none payload) := by
  intro d
  rw [encodeFrame, bind_of_ok (extendFromSlice_eq _ d), wire, extendedLen]
  simp only [Option.isSome_none, maskBit, Bool.false_eq_true, if_false, UInt8.zero_or,
    Option.getD_none, List.nil_append, maskWith, Option.elim_none]
  by_cases hsmall : payload.length ≤ 125
  · rw [if_pos hsmall, if_pos hsmall, bind_of_ok (extendFromSlice_eq _ _), extendFromSlice_eq,
      lenKind, if_pos hsmall]
    simp
  · rw [if_neg hsmall, if_neg hsmall]
    by_cases hmedium : payload.length ≤ 65535
    · rw [if_pos hmedium, if_pos hmedium, bind_of_ok (extendFromSlice_eq _ _),
        bind_of_ok (extendFromSlice_eq _ _), extendFromSlice_eq, lenKind, if_neg hsmall,
        if_pos hmedium]
      simp
    · rw [if_neg hmedium, if_neg hmedium, bind_of_ok (extendFromSlice_eq _ _),
        bind_of_ok (extendFromSlice_eq _ _), extendFromSlice_eq, lenKind, if_neg hsmall,
        if_neg hmedium]
      simp

theorem encodeFrame_eq_ok (h : encodeFrame opcode payload d = .ok () d') :
    d' = d ++ wire opcode none payload := by
  rw [emits_encodeFrame opcode payload d] at h
  cases h
  rfl

theorem encodeControlFrame_eq_ok (h : encodeControlFrame opcode payload d = .ok () d') :
    payload.length ≤ 125 ∧ d' = d ++ wire opcode none payload := by
  obtain ⟨_, hlen, h⟩ := Exec.call_eq_ok.1 h
  exact ⟨Nat.le_of_not_lt (failIf_eq_ok.1 hlen), encodeFrame_eq_ok h⟩

theorem decodeClose_of_valid {close : WebSocketClose} (h : validateCloseCode close.code = .ok ()) :
    decodeClose (u16ToBeBytes close.code ++ asBytes close.reason) = .ok (some close) := by
  have hlen := length_u16ToBeBytes close.code
  have hcode := u16FromBeBytes_toBeBytes close.code
  match hbytes : u16ToBeBytes close.code with
  | [] | [_] | _ :: _ :: _ :: _ =>
    rw [hbytes] at hlen
    cases hlen
  | [b₀, b₁] =>
    rw [hbytes] at hcode
    rw [List.cons_append, List.cons_append, List.nil_append, decodeClose]
    simp only [hcode, h, fromUtf8_asBytes]
    rfl

/-- The encoder appends the frame of the message, whose payload decodes to the message again. -/
theorem encodeWebsocketOutbound_eq_ok {m : WebSocketMessage}
    (h : encodeWebsocketOutbound (.ofMessage m) d = .ok () d') :
    d' = d ++ wire m.opcode none m.payload ∧ (8 ≤ m.opcode.toNat → m.payload.length ≤ 125) ∧
      decodePayload m.opcode m.payload = .ok m := by
  cases m with
  | text value =>
    have hop : (0x1 : UInt8).toNat < 8 := by decide
    refine ⟨encodeFrame_eq_ok h, fun h => absurd h (Nat.not_le.2 hop), ?_⟩
    simp only [WebSocketMessage.opcode, WebSocketMessage.payload, decodePayload, if_true,
      fromUtf8_asBytes]
    rfl
  | binary bytes =>
    have hop : (0x2 : UInt8).toNat < 8 := by decide
    exact ⟨encodeFrame_eq_ok h, fun h => absurd h (Nat.not_le.2 hop), rfl⟩
  | ping bytes =>
    obtain ⟨hlen, rfl⟩ := encodeControlFrame_eq_ok h
    exact ⟨rfl, fun _ => hlen, rfl⟩
  | pong bytes =>
    obtain ⟨hlen, rfl⟩ := encodeControlFrame_eq_ok h
    exact ⟨rfl, fun _ => hlen, rfl⟩
  | close value =>
    cases value with
    | none =>
      obtain ⟨hlen, rfl⟩ := encodeControlFrame_eq_ok h
      exact ⟨rfl, fun _ => hlen, rfl⟩
    | some value =>
      obtain ⟨_, _, hcode, h⟩ := bind_eq_ok.1 h
      obtain ⟨hcode, rfl⟩ := lifted_eq_ok.1 hcode
      obtain ⟨hlen, rfl⟩ := encodeControlFrame_eq_ok h
      have hvalid : validateCloseCode value.code = .ok () := by
        cases hv : validateCloseCode value.code with
        | ok _ => rfl
        | error message =>
          rw [hv] at hcode
          cases hcode
      refine ⟨rfl, fun _ => hlen, ?_⟩
      change WebSocketMessage.close <$>
        decodeClose (u16ToBeBytes value.code ++ asBytes value.reason) = _
      rw [decodeClose_of_valid hvalid]
      rfl

end RsNetty.WebSocket

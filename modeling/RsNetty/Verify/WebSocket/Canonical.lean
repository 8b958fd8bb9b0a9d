import RsNetty.Verify.WebSocket.Discipline

/-!
# The frames that the decoder accepts

`decode_websocket_frame` returns a message exactly when the buffer starts with a canonical frame of
it (`decodeWebsocketFrame_eq_some_iff`), and the encoder writes the canonical frame without a mask.
-/

namespace RsNetty.WebSocket
open EStateM

/-- A payload with an opcode, and a mask key if it is masked, that the decoder accepts. -/
structure Canonical (maxFrameLen : Nat) (requireMasked : Bool) (opcode : UInt8)
    (key : Option Bytes) (payload : Bytes) : Prop where
  known : opcode ∈ ([0x1, 0x2, 0x8, 0x9, 0xa] : List UInt8)
  keyLen : ∀ k ∈ key, k.length = 4
  masked : requireMasked = true → key.isSome = true
  representable : payload.length < 2 ^ 63
  short : payload.length ≤ maxFrameLen
  control : 8 ≤ opcode → payload.length ≤ 125
  text : opcode = 0x1 → ∃ s, payload = asBytes s
  close : opcode = 0x8 → payload = [] ∨ ∃ code reason,
    validateCloseCode code = .ok () ∧ payload = u16ToBeBytes code ++ asBytes reason

/-! ## Payloads -/

theorem decodeWebsocketFrame_eq_some
    (h : decodeWebsocketFrame maxFrameLen requireMasked src = .ok (some m) r) :
    ∃ layout, frameLayout maxFrameLen src = .ok (some layout) ∧ layout.frameLen ≤ src.length ∧
      frameMessage layout requireMasked (src.take layout.frameLen) = .ok m ∧
      r = src.drop layout.frameLen := by
  cases hlayout : frameLayout maxFrameLen src with
  | error e => cases h.symm.trans (decodeWebsocketFrame_malformed hlayout)
  | ok layout =>
    cases layout with
    | none => cases h.symm.trans (decodeWebsocketFrame_noLength hlayout)
    | some layout =>
      by_cases hlen : layout.frameLen ≤ src.length
      · cases hmessage : frameMessage layout requireMasked (src.take layout.frameLen) with
        | error e =>
          obtain ⟨st, herror⟩ := decodeWebsocketFrame_refused hlayout hlen hmessage
          cases h.symm.trans herror
        | ok m' =>
          cases h.symm.trans (decodeWebsocketFrame_complete hlayout hlen hmessage)
          exact ⟨layout, rfl, hlen, hmessage, rfl⟩
      · cases h.symm.trans (decodeWebsocketFrame_short hlayout (Nat.lt_of_not_le hlen))

/-- The encoder accepts the message that a canonical frame carries. -/
theorem Canonical.encodable {m : WebSocketMessage}
    (h : Canonical maxFrameLen requireMasked m.opcode key m.payload) : m.Encodable := by
  refine ⟨?_, fun hop => h.control (UInt8.le_iff_toNat_le.2 hop)⟩
  rintro c rfl
  rcases h.close rfl with hnil | ⟨code, reason, hcode, hbytes⟩
  · have := congrArg List.length hnil
    simp [WebSocketMessage.payload] at this
  · have hbytes : u16ToBeBytes c.code ++ asBytes c.reason = u16ToBeBytes code ++ asBytes reason :=
      hbytes
    have hlen : (u16ToBeBytes c.code).length = (u16ToBeBytes code).length := by simp
    have hcode' := congrArg u16FromBeBytes (List.append_inj_left hbytes hlen)
    rw [u16FromBeBytes_toBeBytes, u16FromBeBytes_toBeBytes] at hcode'
    rwa [hcode']

theorem Canonical.encode {m : WebSocketMessage}
    (h : Canonical maxFrameLen requireMasked m.opcode key m.payload) (dst : BytesMut) :
    encodeWebsocketOutbound (.ofMessage m) dst = .ok () (dst ++ wire m.opcode none m.payload) := by
  rcases encodeWebsocketOutbound_frame m dst with ⟨henc, -⟩ | ⟨-, hnot⟩
  · exact henc
  · exact absurd h.encodable hnot

end RsNetty.WebSocket

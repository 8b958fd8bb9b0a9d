import RsNetty.Transport.Udp.Builder
import RsNetty.Verify.Udp.Isolation

/-!
# Truncated datagrams

`recv_from` stores no more of a datagram than the receive buffer holds. The task can tell that a
datagram is too long only if the buffer is longer than `max_datagram_size`; the builders make sure
that it is not shorter.
-/

namespace RsNetty
open EStateM Traced

variable {P : DatagramStages}

/-! ## Calls of the decoder -/

/-- The codec and the buffer of an encoder, next to the list of calls. -/
def recordingBuffer {C : Type} : Component ((C × List Bytes) × BytesMut) (C × BytesMut) :=
  ⟨fun t => (t.1.1, t.2), fun u t => ((u.1, t.1.2), u.2)⟩

/-- The stages with a codec that lists the calls of its `decode_datagram`. -/
def DatagramStages.recording (P : DatagramStages) : DatagramStages :=
  { P with
    C := P.C × List Bytes
    decodeDatagram := fun src => do
      modify fun t => (t.1, t.2 ++ [src])
      EStateM.zoom Component.fst (P.decodeDatagram src)
    encodeDatagram := fun item => EStateM.zoom recordingBuffer (P.encodeDatagram item) }

theorem DatagramStages.recording_decodeDatagram (src : Bytes) (t : P.C × List Bytes) :
    (P.recording.decodeDatagram src t).final.2 = t.2 ++ [src] := by
  change (EStateM.zoom (.fst (τ := List Bytes)) (P.decodeDatagram src)
    (t.1, t.2 ++ [src])).final.2 = _
  rw [final_zoom]
  rfl

namespace DatagramState

theorem recording_encoderKeeps (calls : List Bytes) :
    EncoderKeeps (P := P.recording) fun _ codec => codec.2 = calls := by
  intro delivered (item : P.CurrentOut) (t : (P.C × List Bytes) × BytesMut) h
  change (EStateM.zoom recordingBuffer (P.encodeDatagram item) t).final.1.2 = calls
  rw [final_zoom]
  exact h

end DatagramState

namespace DatagramSocketRuntime

/-- The slices that `decode_datagram` was called with so far. -/
def decodeCalls (rt : DatagramSocketRuntime P.recording) : List Bytes := rt.io.pipeline.codec.2

theorem processDatagram_decodeCalls (read : Bytes) (peerAddr : SocketAddr) (calls : List Bytes) :
    Triple (fun _ => True) (fun rt : DatagramSocketRuntime P.recording => rt.decodeCalls = calls)
      (processDatagram read peerAddr) (fun _ rt => rt.decodeCalls = calls ++ [read])
      fun _ rt => rt.decodeCalls = calls ++ [read] := by
  apply Triple.bind (Q := fun _ rt => rt.decodeCalls = calls ++ [read])
  · apply Triple.zoom
    intro rt hrt
    apply await_triple
    rintro io rfl
    rw [Result.holds_final, DatagramState.decodeDatagram, final_zoom]
    refine ⟨trivial, (P.recording_decodeDatagram read rt.io.pipeline.codec).trans ?_⟩
    rw [show rt.io.pipeline.codec.2 = calls from hrt]
  · intro msg
    apply Triple.bind (Q := fun _ rt => rt.decodeCalls = calls ++ [read])
    · exact Triple.step fun rt hrt => ⟨trivial, hrt⟩
    · intro _
      refine Triple.look_keep fun rt _ => ?_
      apply Triple.bind (Q := fun _ rt => rt.decodeCalls = calls ++ [read])
      · apply Triple.zoom
        intro rt' hrt'
        have hkeeps := DatagramState.processInboundFlushable_keeps
          (DatagramState.recording_encoderKeeps (P := P) (calls ++ [read])) (rt.info peerAddr) msg
        exact hkeeps.pre fun io hio => hio ▸ hrt'
      · intro _
        exact Triple.look_keep fun _ _ => Triple.pure fun _ hrt => hrt

/-- Of a datagram, the decoder is called with what the buffer holds, unless this is too long. -/
theorem handleDatagram_decodeCalls (rt : DatagramSocketRuntime P.recording) (datagram : Bytes)
    (peerAddr : SocketAddr) :
    ((handleDatagram datagram peerAddr).result rt).final.decodeCalls =
      rt.decodeCalls ++
        if (rt.received datagram).length ≤ rt.config.maxDatagramSize then [rt.received datagram]
        else [] := by
  split
  next hsmall =>
    rw [handleDatagram_of_size hsmall]
    exact Result.holds_final.1
      (processDatagram_decodeCalls (rt.received datagram) peerAddr rt.decodeCalls rt rfl).2
  next hlarge =>
    rw [handleDatagram, result_look_bind]
    dsimp only
    rw [if_pos (Nat.not_le.1 hlarge), List.append_nil]
    rfl

/-! ## The configuration of a running task -/

theorem handleCommand_configured {config : UdpSocketConfig}
    (cmd : Option (DatagramCommand P.Write)) :
    Triple (fun _ => True) (·.config = config) (handleCommand cmd) (fun _ rt => rt.config = config)
      fun _ rt => rt.config = config := by
  have hkeep (rt : DatagramSocketRuntime P) (io : DatagramState P) (hrt : rt.config = config) :
      { rt with io }.config = config := hrt
  match cmd with
  | some (.writeTo peerAddr msg) =>
    exact Triple.bind (writeMessage_frame hkeep peerAddr msg) fun _ => Triple.pure fun _ hrt => hrt
  | some (.writeToAndFlush peerAddr msg done) =>
    apply Triple.bind (Q := fun _ rt => rt.config = config)
    · exact Triple.step fun rt hrt => ⟨trivial, hrt⟩
    intro _
    apply report_triple (K := fun rt => rt.config = config) (writeMessage_frame hkeep peerAddr msg)
    · exact fun _ hrt => ⟨trivial, hrt⟩
    · exact fun _ _ hrt => ⟨trivial, hrt⟩
    · exact fun _ hrt => hrt
    · exact fun _ hrt => hrt
    · exact Triple.pure fun _ hrt => hrt
  | some .close => exact Triple.pure fun _ hrt => hrt
  | none => exact Triple.pure fun _ hrt => hrt

theorem select_configured {config : UdpSocketConfig} (event : SocketEvent P.Write) :
    Triple (fun _ => True) (·.config = config) (select event) (fun _ rt => rt.config = config)
      fun _ rt => rt.config = config := by
  match event with
  | .recv (.ok (datagram, peerAddr)) =>
    exact handleDatagram_frame (fun _ _ hrt => hrt) datagram peerAddr
  | .recv (.error err) => exact Triple.fail fun _ hrt => hrt
  | .command cmd => exact handleCommand_configured cmd
  | .shutdown => exact Triple.pure fun _ hrt => hrt

end DatagramSocketRuntime

/-! ## The configuration of a builder -/

/-- The buffer holds a datagram of the largest size that is accepted. -/
structure UdpSocketConfig.Normal (config : UdpSocketConfig) : Prop where
  maxDatagramSize_pos : 0 < config.maxDatagramSize
  le : config.maxDatagramSize ≤ config.readBufferCapacity

namespace UdpSocketConfig
variable {config : UdpSocketConfig}

theorem normalize_normal (config : UdpSocketConfig) : config.normalize.Normal where
  maxDatagramSize_pos := Nat.lt_of_lt_of_le Nat.one_pos (Nat.le_max_right _ _)
  le := (Nat.le_max_right _ _).trans (Nat.le_max_left _ _)

theorem Normal.normalize_eq (h : config.Normal) : config.normalize = config := by
  have hmax : max config.maxDatagramSize 1 = config.maxDatagramSize :=
    max_eq_left h.maxDatagramSize_pos
  have hcapacity : max config.readBufferCapacity 1 = config.readBufferCapacity :=
    max_eq_left (h.maxDatagramSize_pos.trans_le h.le)
  rw [normalize, hmax, max_eq_left h.le, hcapacity]

theorem Normal.bufferSize_eq (h : config.Normal) : config.bufferSize = config.readBufferCapacity := by
  rw [bufferSize, max_eq_left h.le, max_eq_left (h.maxDatagramSize_pos.trans_le h.le)]

end UdpSocketConfig

namespace UdpBuilder

theorem config_normal (builder : UdpBuilder) (calls : List SizeCall) :
    (builder.config calls).Normal := by
  have hdefault : UdpSocketConfig.Normal {} := ⟨by decide, by decide⟩
  cases builder with
  | server =>
    refine List.foldlRecOn (motive := fun server : UdpServer => server.config.Normal) calls _ hdefault ?_
    intro server h call hcall
    cases call with
    | readBufferCapacity value => exact UdpSocketConfig.normalize_normal _
    | maxDatagramSize value => exact UdpSocketConfig.normalize_normal _
  | client =>
    refine List.foldlRecOn (motive := fun client : UdpClient => client.config.Normal) calls _ hdefault ?_
    intro client h call hcall
    cases call with
    | readBufferCapacity value => exact UdpSocketConfig.normalize_normal _
    | maxDatagramSize value => exact UdpSocketConfig.normalize_normal _

/-- The normalization before the task is spawned has nothing left to do. -/
theorem spawn_config (builder : UdpBuilder) (calls : List SizeCall) (localAddr : SocketAddr)
    (socket : UdpSocket) (pipeline : DatagramPipeline P) :
    (builder.spawn calls localAddr socket pipeline).config = builder.config calls := by
  have hnormal := builder.config_normal calls
  cases builder with
  | server => exact hnormal.normalize_eq
  | client => exact hnormal.normalize_eq

end UdpBuilder

namespace DatagramSocketRuntime

/-- Of the datagram, the decoder gets the complete payload or nothing, and nothing if it is longer
than `max_datagram_size`. -/
structure DecodesWhole (rt : DatagramSocketRuntime P.recording) (datagram : Bytes)
    (peerAddr : SocketAddr) : Prop where
  whole :
    let calls := ((select (.recv (.ok (datagram, peerAddr)))).result rt).final.decodeCalls
    calls = rt.decodeCalls ++ [datagram] ∨ calls = rt.decodeCalls
  oversized : rt.config.maxDatagramSize < datagram.length →
    ((select (.recv (.ok (datagram, peerAddr)))).result rt).final.decodeCalls = rt.decodeCalls

/-- A task that waits, at any point of a run from a builder's configuration, is safe from a datagram
unless this is too long and the buffer too short to show it. -/
theorem decodesWhole_iff (builder : UdpBuilder) (calls : List SizeCall) (localAddr : SocketAddr)
    (socket : UdpSocket) (pipeline : DatagramPipeline P.recording)
    (before : List (SocketEvent P.recording.Write)) (rt : DatagramSocketRuntime P.recording)
    (hrun : (run before).result (builder.spawn calls localAddr socket pipeline) = .ok false rt)
    (datagram : Bytes) (peerAddr : SocketAddr) :
    DecodesWhole rt datagram peerAddr ↔
      datagram.length ≤ (builder.config calls).maxDatagramSize ∨
        (builder.config calls).maxDatagramSize < (builder.config calls).readBufferCapacity := by
  have hconfig : rt.config = builder.config calls := by
    have hspawn := builder.spawn_config calls localAddr socket pipeline
    have hkept := (run_triple select_configured before _ hspawn).2
    rwa [hrun] at hkept
  obtain ⟨-, hle⟩ := builder.config_normal calls
  have hreceived : (rt.received datagram).length =
      min (builder.config calls).readBufferCapacity datagram.length := by
    rw [received, hconfig, (builder.config_normal calls).bufferSize_eq, List.length_take]
  have hcalls := handleDatagram_decodeCalls rt datagram peerAddr
  rw [hconfig] at hcalls
  constructor
  · rintro ⟨-, hoversized⟩
    by_contra! hcut
    obtain ⟨hlong, hshort⟩ := hcut
    -- The buffer is as long as the limit, and what it holds passes the check.
    have hpasses : (rt.received datagram).length ≤ (builder.config calls).maxDatagramSize :=
      hreceived ▸ (Nat.min_le_left _ _).trans hshort
    rw [if_pos hpasses] at hcalls
    have hlength := congrArg List.length (hcalls.symm.trans (hoversized (hconfig ▸ hlong)))
    rw [List.length_append] at hlength
    exact Nat.succ_ne_self _ hlength
  · intro h
    by_cases hpasses : (rt.received datagram).length ≤ (builder.config calls).maxDatagramSize
    · have hshort : datagram.length ≤ (builder.config calls).maxDatagramSize := by
        omega
      have hcomplete : rt.received datagram = datagram := by
        rw [received, hconfig, (builder.config_normal calls).bufferSize_eq]
        exact List.take_of_length_le (hshort.trans hle)
      rw [if_pos hpasses, hcomplete] at hcalls
      exact ⟨.inl hcalls, fun hlong => absurd (hconfig ▸ hlong) (Nat.not_lt.2 hshort)⟩
    · rw [if_neg hpasses, List.append_nil] at hcalls
      exact ⟨.inr hcalls, fun _ => hcalls⟩

/-- The codec of UTF-8 datagrams, before any call. -/
def utf8Pipeline : DatagramPipeline Utf8DatagramCodec.echo.recording where
  codec := ((), [])
  inbound := ()
  business := ()
  handler := ()
  outbound := ()

/-- A buffer of one byte more than the limit, after a datagram was echoed: a datagram of seventeen
bytes does not get to the decoder. -/
theorem decodesWhole_iff_wider :
    let calls := [.maxDatagramSize 16, .readBufferCapacity 17]
    let rt := UdpBuilder.server.spawn calls ⟨[127, 0, 0, 1], 9000⟩ {} utf8Pipeline
    let peer := ⟨[127, 0, 0, 1], 9001⟩
    DecodesWhole ((run [.recv (.ok ([104, 105], peer))]).result rt).final (List.replicate 17 97)
      peer :=
  (decodesWhole_iff .server [.maxDatagramSize 16, .readBufferCapacity 17] ⟨[127, 0, 0, 1], 9000⟩ {}
    utf8Pipeline [.recv (.ok ([104, 105], ⟨[127, 0, 0, 1], 9001⟩))] _ rfl _
    ⟨[127, 0, 0, 1], 9001⟩).2 (.inr (by decide))

/-- A buffer of sixteen bytes for datagrams of at most sixteen: of a datagram of seventeen bytes, the
first sixteen are decoded. -/
theorem not_decodesWhole_cut :
    let calls := [.maxDatagramSize 16, .readBufferCapacity 16]
    let rt := UdpBuilder.server.spawn calls ⟨[127, 0, 0, 1], 9000⟩ {} utf8Pipeline
    let peer := ⟨[127, 0, 0, 1], 9001⟩
    let datagram := List.replicate 17 97
    ((select (.recv (.ok (datagram, peer)))).result rt).final.decodeCalls = [datagram.take 16] ∧
      ¬DecodesWhole rt datagram peer := by
  intro calls rt peer datagram
  have hcut : ((select (.recv (.ok (datagram, peer)))).result rt).final.decodeCalls =
      [datagram.take 16] := by
    decide
  refine ⟨hcut, ?_⟩
  rintro ⟨-, hoversized⟩
  have hnone := hcut.symm.trans (hoversized (by decide))
  cases hnone

end DatagramSocketRuntime

end RsNetty

import RsNetty.Macros
import RsNetty.Pipeline.Codec
import RsNetty.Verify.LengthFieldPrepender
import RsNetty.Verify.Line
import RsNetty.Verify.Mqtt.Framing
import RsNetty.Verify.Tcp.Peers

/-!
# Codecs that understand each other

Two ends of a connection are linked if the one takes what the other encodes.
-/

namespace RsNetty
open EStateM Traced Segmentation

variable {C D I J O N : Type}

/-- Encoding for `codec` appends the word of the message, if it is `Able` to, and decoding for
`other` takes the words of the good ones among them. -/
structure StreamCodec.Understood (e : StreamCodec C I O) (codec : C) (d : StreamCodec D J N)
    (other : D) (Able Good : O → Prop) (word : O → Bytes) (item : O → J) : Prop where
  appends : ∀ codec msg dst, dst <+: (e.encode codec msg dst).final
  encode : e.encode codec msg dst = .ok () dst' → Able msg ∧ dst' = dst ++ word msg
  idle : d.decode other [] = .ok none []
  takes : Able msg → Good msg → Takes (stateless d.decode) other (word msg) (item msg) other

namespace CodecStages

variable {stages : CodecStages I O} {e : StreamCodec C I O} {codec codec' : C} {b b' : Bytes}

theorem around_decode : (stages.around e).decode = stateless e.decode := by
  funext ⟨codec, b⟩
  change EStateM.zoom Component.snd (e.decode codec) (codec, b) = _
  cases h : e.decode codec b with
  | ok i b' => exact (zoom_of_ok h).trans (stateless_ok h).symm
  | error err b' => exact (zoom_of_error h).trans (stateless_error h).symm

theorem around_encode {msg : O}
    (h : (stages.around e).encode msg (codec, b) = .ok () (codec', b')) :
    codec' = codec ∧ e.encode codec msg b = .ok () b' := by
  obtain ⟨t, ht, hset⟩ := zoom_eq_ok.1 h
  cases hset
  exact ⟨rfl, ht⟩

theorem around_decode_codec {i : Option I}
    (h : (stages.around e).decode (codec, b) = .ok i (codec', b')) : codec' = codec := by
  obtain ⟨t, -, hset⟩ := zoom_eq_ok.1 h
  cases hset
  rfl

theorem around_appendsOnly (h : ∀ codec msg dst, dst <+: (e.encode codec msg dst).final) :
    (stages.around e).AppendsOnly := by
  intro msg codec dst
  change dst <+: (EStateM.zoom Component.snd (e.encode codec msg) (codec, dst)).final.2
  rw [final_zoom]
  exact h codec msg dst

end CodecStages

theorem StreamCodec.Understood.link {e : StreamCodec C I O} {codec : C} {d : StreamCodec D J N}
    {other : D} {Able Good : O → Prop} {word : O → Bytes} {item : O → J}
    (h : e.Understood codec d other Able Good word item) (stages : CodecStages I O)
    (stages' : CodecStages J N) :
    Link (stages.around e) (stages'.around d) (· = codec) (· = other) Able Good word item where
  encodes := {
    appends := CodecStages.around_appendsOnly h.appends
    encode := by
      rintro codec msg dst codec' dst' rfl hok
      obtain ⟨hcodec, hok⟩ := CodecStages.around_encode hok
      exact ⟨hcodec, h.encode hok⟩
    decode := by
      rintro codec b item codec' b' rfl hok
      exact CodecStages.around_decode_codec hok }
  decodes := {
    takes := by
      rintro msg codec ⟨hable, hgood⟩ rfl
      exact ⟨codec, rfl, CodecStages.around_decode ▸ h.takes hable hgood⟩
    idle := by
      rintro codec rfl
      rw [CodecStages.around_decode]
      exact stateless_ok h.idle
    encode := by
      rintro codec out dst codec' dst' rfl hok
      exact (CodecStages.around_encode hok).1 }
  nonempty hable hgood := (h.takes hable hgood).nonempty

/-- A decoder whose calls more input does not change takes each word that it takes alone. -/
theorem takes_of_stable {f : D → Exec BytesMut (Option J)} {other : D} {E : Fault → Fault → Prop}
    (hstable : ∀ b r, StableCall (f other) E b r) {w : Bytes} {i : J} (hne : w ≠ [])
    (h : f other w = .ok (some i) []) : Takes (stateless f) other w i other where
  nonempty := hne
  incomplete hpart hr := stateless_ok ((hstable _ _).awaited (hpart ▸ h) hr)
  taken r := stateless_ok ((hstable w r).taken h)

/-! ## Frames of a fixed length -/

def FixedLengthFrameDecoder.codec : StreamCodec FixedLengthFrameDecoder Bytes Bytes :=
  ⟨decode, encode⟩

theorem FixedLengthFrameDecoder.understood (self : FixedLengthFrameDecoder) :
    codec.Understood self codec self (·.length = self.frameLength) (fun _ => True) id id where
  appends := encode_extends
  encode {msg dst dst'} h := by
    change self.encode msg dst = .ok () dst' at h
    unfold encode at h
    split at h
    · cases h
    · next hlen =>
      cases h
      exact ⟨not_not.1 hlen, rfl⟩
  idle := decode_short self.frameLength_pos
  takes {msg} hlen _ := by
    have hne : msg ≠ [] := by
      rintro rfl
      exact self.frameLength_pos.ne hlen
    refine ⟨⟨hne, fun {b r} hpart hr => stateless_ok (decode_short ?_)⟩, fun r => stateless_ok ?_⟩
    · have hlength := congrArg List.length hpart
      have := List.length_pos_iff.2 hr
      rw [id, List.length_append] at hlength
      omega
    · have hcomplete : self.frameLength ≤ (msg ++ r).length := by
        rw [List.length_append]
        omega
      have hdecode := decode_complete hcomplete
      rwa [List.take_left' hlen, List.drop_left' hlen] at hdecode

/-! ## Lines -/

def LineCodec.codec : StreamCodec LineCodec String String := ⟨decode, encode⟩

/-- A line is any text without a newline that does not end in a carriage return. -/
theorem LineCodec.understood (self other : LineCodec) :
    codec.Understood self codec other (fun _ => True)
      (fun s => IsLine s ∧ (asBytes s).length ≤ other.maxLineLen) (fun s => asBytes s ++ [0x0a])
      id where
  appends self msg dst := by
    change dst <+: (self.encode msg dst).final
    rw [encode_eq]
    exact List.prefix_append _ _
  encode {msg dst dst'} h := by
    cases (encode_eq self msg dst).symm.trans h
    exact ⟨trivial, rfl⟩
  idle := decode_tail List.not_mem_nil (Nat.zero_le _)
  takes {s} _ hgood := by
    refine takes_of_stable other.decode_stable ?_ (hgood.1.decode hgood.2 [])
    exact List.append_ne_nil_of_right_ne_nil _ (List.cons_ne_nil _ _)

/-! ## Frames with a length field -/

def LengthFieldBasedFrameDecoder.codec : StreamCodec LengthFieldBasedFrameDecoder Bytes Bytes :=
  ⟨decode, encode⟩

theorem appendOnly_writeLength (len lengthFieldLength : Nat) (byteOrder : ByteOrder) :
    AppendOnly (writeLength len lengthFieldLength byteOrder) := by
  unfold writeLength
  split
  case h_11 => exact AppendOnly.throw _
  all_goals
    refine AppendOnly.bind (AppendOnly.lifted _) fun _ => ?_
    repeat' first
      | exact appendOnly_extendFromSlice _
      | refine AppendOnly.bind (appendOnly_extendFromSlice _) fun _ => ?_

theorem LengthFieldBasedFrameDecoder.appendOnly_encode (self : LengthFieldBasedFrameDecoder)
    (item : Bytes) : AppendOnly (self.encode item) := by
  refine AppendOnly.bind ?_ fun _ => appendOnly_extendFromSlice item
  exact AppendOnly.bind (AppendOnly.lifted _) fun _ => appendOnly_writeLength _ _ _

/-- An item is encoded if its length fits in the field, and decoded if the frame is not too long. -/
theorem LengthFieldBasedFrameDecoder.understood {self : LengthFieldBasedFrameDecoder}
    (hplain : self.Plain) (hmax : self.maxFrameLength ≤ usizeMax) :
    codec.Understood self codec self (·.length < 256 ^ self.lengthFieldLength)
      (fun item => self.lengthFieldLength + item.length ≤ self.maxFrameLength)
      (fun item => lengthField self.byteOrder self.lengthFieldLength item.length ++ item) id where
  appends self msg dst := (self.appendOnly_encode msg).prefix_final dst
  encode h := by
    obtain ⟨⟨-, -, -, hlen⟩, hdst⟩ := encode_eq_ok_iff.1 h
    exact ⟨hlen, hdst⟩
  idle := decode_noField hplain.fieldEnd hplain.pos
  takes {item} hlen hgood := by
    refine takes_of_stable self.decode_stable ?_ ?_
    · intro hw
      have hlength := congrArg List.length hw
      have hpos := hplain.pos
      rw [List.length_append, length_lengthField, List.length_nil] at hlength
      omega
    · have hdecode := decode_lengthField_iff hplain.offset hplain.adjustment hplain.supported hmax
        hlen []
      rw [List.append_nil] at hdecode
      exact hdecode.2 ⟨hplain.strip, hgood⟩

/-! ## MQTT -/

namespace Mqtt

def MqttCodec.codec : StreamCodec MqttCodec MqttPacket MqttPacket := ⟨decode, encode⟩

/-- The bytes of a packet. -/
def MqttPacket.word (packet : MqttPacket) : Bytes :=
  match encodePacket packet with
  | .ok (packetType, flags, body) => wire ((packetType <<< 4) ||| flags) body
  | .error _ => []

/-- The packet can be encoded, to a body of at most this size. -/
def MqttPacket.Fits (maxPacketSize : Nat) (packet : MqttPacket) : Prop :=
  ∃ packetType flags body, encodePacket packet = .ok (packetType, flags, body) ∧
    body.length ≤ maxPacketSize

theorem MqttCodec.appendOnly_encode (self : MqttCodec) (packet : MqttPacket) :
    AppendOnly (self.encode packet) := by
  refine AppendOnly.bind (AppendOnly.lifted _) fun _ => ?_
  refine AppendOnly.bind (AppendOnly.lifted _) fun _ => ?_
  refine AppendOnly.bind (appendOnly_extendFromSlice _) fun _ => ?_
  exact AppendOnly.bind (appendOnly_writeVariableInteger _) fun _ => appendOnly_extendFromSlice _

theorem MqttCodec.understood {self other : MqttCodec}
    (hlimit : self.maxPacketSize ≤ maxRemainingLength)
    (hother : self.maxPacketSize ≤ other.maxPacketSize) :
    codec.Understood self codec other (·.Fits self.maxPacketSize) (fun _ => True) MqttPacket.word
      id where
  appends self packet dst := (self.appendOnly_encode packet).prefix_final dst
  encode {packet dst dst'} h := by
    obtain ⟨packetType, flags, body, hpacket, hmax⟩ := encode_eq_ok h
    refine ⟨⟨packetType, flags, body, hpacket, hmax⟩, ?_⟩
    cases (encode_of_ok hpacket hmax (hmax.trans hlimit) dst).symm.trans h
    rw [MqttPacket.word, hpacket]
  idle := decode_short (by decide)
  takes {packet} hfits _ := by
    obtain ⟨packetType, flags, body, hpacket, hmax⟩ := hfits
    have hlen := hmax.trans hlimit
    have hdecode := decode_of_wire hlen (hmax.trans hother) ((packetType <<< 4) ||| flags) []
    rw [decodeBody_encodePacket hpacket hlen, List.append_nil] at hdecode
    rw [MqttPacket.word, hpacket]
    exact takes_of_stable other.decode_stable (List.cons_ne_nil _ _) hdecode

end Mqtt

/-! ## Both ends -/

namespace TcpPeers

section
variable {P Q : StreamStages} {S : P.C → Prop} {T : Q.C → Prop} {Able Good : P.CurrentOut → Prop}
  {word : P.CurrentOut → Bytes} {item : P.CurrentOut → Q.Item} {Able' Good' : Q.CurrentOut → Prop}
  {word' : Q.CurrentOut → Bytes} {item' : Q.CurrentOut → P.Item} {t : TcpPeers P Q}

/-- In every run of a connection, whatever its handlers, its stages, its commands and the network
do, each end is handed what the other end writes. -/
theorem run_conveyed (link : Link P Q S T Able Good word item)
    (link' : Link Q P T S Able' Good' word' item') (env : Surroundings)
    (faults faults' : List (Option (Nat × String))) (pipeline : StreamPipeline P)
    (pipeline' : StreamPipeline Q) (config config' : TcpConnectionConfig) (tracked tracked' : Bool)
    (hS : S pipeline.codec) (hT : T pipeline'.codec) (actions : List (PeersAction P Q))
    (hrun : (step env).run (new (.new { faults } pipeline config tracked)
      (.new { faults := faults' } pipeline' config' tracked')) actions = some t) :
    ((∀ m ∈ t.left.written, Good m) → Conveyed word item t.left t.right) ∧
      ((∀ m ∈ t.right.written, Good' m) → Conveyed word' item' t.right t.left) := by
  have hlinked := run_linked link link' env faults faults' pipeline pipeline' config config' tracked
    tracked' hS hT actions hrun
  exact ⟨hlinked.1.conveyed, hlinked.2.conveyed⟩

end

/-- A frame in two pieces, and its echo. -/
theorem run_conveyed_echo :
    let self : FixedLengthFrameDecoder := ⟨2, by decide⟩
    let client := FixedLengthFrameDecoder.codec.pipeline self
      (fun () _ => (FnFuture.ready (.ok ()) ()).consume) ()
    let server := FixedLengthFrameDecoder.codec.pipeline self
      (fun () frame => (FnFuture.ready (.ok frame) ()).respond) ()
    ∃ t, (step ⟨fun _ => "", 0⟩).run (new (.new {} client {} true) (.new {} server {} true))
        [.left (.write [1, 2]), .left .recv, .right (.read (.ok [1])), .right (.read (.ok [2])),
          .left (.read (.ok [1, 2]))] = some t ∧
      t.right.handed = [[1, 2]] ∧ t.left.handed = [[1, 2]] ∧
      Conveyed id id t.left t.right ∧ Conveyed id id t.right t.left := by
  intro self client server
  have hend : ((step ⟨fun _ => "", 0⟩).run (new (.new {} client {} true) (.new {} server {} true))
      [.left (.write [1, 2]), .left .recv, .right (.read (.ok [1])), .right (.read (.ok [2])),
        .left (.read (.ok [1, 2]))]).map
          (fun t => ((t.right.handed, t.left.handed) : List Bytes × List Bytes)) =
      some ([[1, 2]], [[1, 2]]) := by
    decide +kernel
  obtain ⟨t, hrun, ht⟩ := Option.map_eq_some_iff.1 hend
  obtain ⟨hright, hleft⟩ := Prod.mk.inj ht
  have hconveyed := run_conveyed (self.understood.link _ _) (self.understood.link _ _)
    ⟨fun _ => "", 0⟩ [] [] client server {} {} true true rfl rfl _ hrun
  exact ⟨t, hrun, hright, hleft, hconveyed.1 fun _ _ => trivial, hconveyed.2 fun _ _ => trivial⟩

section
open Mqtt

/-- Two ends that speak MQTT with the same limit hand on whatever packets the other end encodes. -/
theorem run_packetsConveyed {codec : MqttCodec} (hlimit : codec.maxPacketSize ≤ maxRemainingLength)
    (stages stages' : CodecStages MqttPacket MqttPacket) (env : Surroundings)
    (faults faults' : List (Option (Nat × String)))
    (pipeline : StreamPipeline (stages.around MqttCodec.codec)) (hcodec : pipeline.codec = codec)
    (pipeline' : StreamPipeline (stages'.around MqttCodec.codec))
    (hcodec' : pipeline'.codec = codec) (config config' : TcpConnectionConfig)
    (tracked tracked' : Bool)
    (actions : List (PeersAction _ _)) {t : TcpPeers _ _}
    (hrun : (step env).run (new (.new { faults } pipeline config tracked)
      (.new { faults := faults' } pipeline' config' tracked')) actions = some t) :
    Conveyed MqttPacket.word id t.left t.right ∧ Conveyed MqttPacket.word id t.right t.left := by
  have understood := MqttCodec.understood hlimit (Nat.le_refl codec.maxPacketSize)
  have hlinked := run_linked (understood.link stages stages') (understood.link stages' stages) env
    faults faults' pipeline pipeline' config config' tracked tracked' hcodec hcodec' actions hrun
  exact ⟨hlinked.1.conveyed fun _ _ => trivial, hlinked.2.conveyed fun _ _ => trivial⟩

/-- A reading in two pieces, and its acknowledgement. -/
theorem run_packetsConveyed_publish :
    let client := MqttCodec.codec.pipeline MqttCodec.new
      (fun () _ => (FnFuture.ready (.ok ()) ()).consume) ()
    let server := MqttCodec.codec.pipeline MqttCodec.new (fun () _ =>
      (FnFuture.ready (.ok (MqttPacket.pubAck ⟨7, 0, [.reasonString "a"]⟩)) ()).respond) ()
    ∃ t, (step ⟨fun _ => "", 0⟩).run (new (.new {} client {} true) (.new {} server {} true))
        [.left (.write MqttCodec.reading), .left .recv,
          .right (.read (.ok (MqttCodec.readingWire.take 5))),
          .right (.read (.ok (MqttCodec.readingWire.drop 5))),
          .left (.read (.ok [0x40, 8, 0, 7, 0, 4, 0x1f, 0, 1, 0x61]))] = some t ∧
      t.right.handed = [MqttCodec.reading] ∧ t.left.handed = [.pubAck ⟨7, 0, [.reasonString "a"]⟩] ∧
      Conveyed MqttPacket.word id t.left t.right ∧ Conveyed MqttPacket.word id t.right t.left := by
  intro client server
  have hend : ((step ⟨fun _ => "", 0⟩).run (new (.new {} client {} true) (.new {} server {} true))
      [.left (.write MqttCodec.reading), .left .recv,
        .right (.read (.ok (MqttCodec.readingWire.take 5))),
        .right (.read (.ok (MqttCodec.readingWire.drop 5))),
        .left (.read (.ok [0x40, 8, 0, 7, 0, 4, 0x1f, 0, 1, 0x61]))]).map
          (fun t => ((t.right.handed, t.left.handed) : List MqttPacket × List MqttPacket)) =
      some ([MqttCodec.reading], [.pubAck ⟨7, 0, [.reasonString "a"]⟩]) := by
    decide +kernel
  obtain ⟨t, hrun, ht⟩ := Option.map_eq_some_iff.1 hend
  obtain ⟨hright, hleft⟩ := Prod.mk.inj ht
  exact ⟨t, hrun, hright, hleft, run_packetsConveyed (Nat.le_refl _) _ _ ⟨fun _ => "", 0⟩ [] []
    client rfl server rfl {} {} true true _ hrun⟩

end

end TcpPeers

end RsNetty

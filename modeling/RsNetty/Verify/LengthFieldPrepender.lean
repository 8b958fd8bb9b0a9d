import RsNetty.Verify.LengthFieldArithmetic

/-!
# Length-prefixed streams

What `LengthFieldPrepender` writes in front of the items of a stream, the decoder with the same
field takes off again, however the stream is cut (`feed_encodeAll`).
-/

namespace RsNetty
open EStateM Segmentation

namespace LengthFieldBasedFrameDecoder
variable {self : LengthFieldBasedFrameDecoder}

/-- The field stands in front of the frame, says its length and is stripped. -/
structure Plain (decoder : LengthFieldBasedFrameDecoder) : Prop where
  supported : decoder.lengthFieldLength ∈ lengthFieldLengths
  offset : decoder.lengthFieldOffset = 0
  adjustment : decoder.lengthAdjustment = 0
  strip : decoder.initialBytesToStrip = decoder.lengthFieldLength

theorem Plain.pos (h : self.Plain) : 0 < self.lengthFieldLength := by
  have hall : ∀ n ∈ lengthFieldLengths, 0 < n := by decide
  exact hall _ h.supported

theorem Plain.fieldEnd (h : self.Plain) :
    usizeAdd self.lengthFieldOffset self.lengthFieldLength = .ok self.lengthFieldLength := by
  have hall : ∀ n ∈ lengthFieldLengths, 0 + n ≤ usizeMax := by decide
  rw [h.offset, usizeAdd_of_le (hall _ h.supported), Nat.zero_add]

theorem Plain.feed_lengthFields (h : self.Plain) (hmax : self.maxFrameLength ≤ usizeMax)
    {items : List Bytes}
    (hlens : ∀ item ∈ items, item.length < 256 ^ self.lengthFieldLength)
    (hfits : ∀ item ∈ items, self.lengthFieldLength + item.length ≤ self.maxFrameLength)
    {chunks : List Bytes} (hcut : chunks.flatten = (items.map fun item =>
      lengthField self.byteOrder self.lengthFieldLength item.length ++ item).flatten) :
    feed (stateless decode) self [] chunks = (items, .waiting self []) := by
  have hnil : stateless decode (self, []) = .ok none (self, []) :=
    stateless_ok (decode_noField h.fieldEnd h.pos)
  have hstable := feed_sim hnil fun s b cs (_ : FeedCalls (stateless decode) self [] chunks s b cs) =>
    (decode_stable s b cs.flatten).stateless
  rw [hstable.eq, feed_single, hcut, List.nil_append]
  refine drain_words hnil fun item hitem => ?_
  refine ⟨fun hw => ?_, fun r => stateless_ok ?_⟩
  · have hlen := congrArg List.length hw
    have hpos := h.pos
    rw [List.length_append, length_lengthField, List.length_nil] at hlen
    omega
  · exact (decode_lengthField_iff h.offset h.adjustment h.supported hmax (hlens item hitem) r).2
      ⟨h.strip, hfits item hitem⟩

end LengthFieldBasedFrameDecoder

namespace LengthFieldPrepender

/-- The items of a stream, one after the other. -/
def encodeAll (self : LengthFieldPrepender) : List Bytes → Exec BytesMut Unit
  | [] => return ()
  | item :: items => do
    self.encode item
    self.encodeAll items

theorem encodeAll_eq_ok {self : LengthFieldPrepender}
    (hfield : self.lengthFieldLength ∈ lengthFieldLengths) {items : List Bytes}
    (h : self.encodeAll items dst = .ok () dst') :
    (∀ item ∈ items, item.length < 256 ^ self.lengthFieldLength) ∧
      dst' = dst ++ (items.map fun item =>
        lengthField self.byteOrder self.lengthFieldLength item.length ++ item).flatten := by
  induction items generalizing dst with
  | nil =>
    cases h
    exact ⟨nofun, (List.append_nil _).symm⟩
  | cons item items ih =>
    obtain ⟨_, dst₁, hitem, h⟩ := bind_eq_ok.1 h
    obtain ⟨hlen, rfl⟩ := encode_eq_ok hfield hitem
    obtain ⟨hlens, rfl⟩ := ih h
    refine ⟨List.forall_mem_cons.2 ⟨hlen, hlens⟩, ?_⟩
    rw [List.map_cons, List.flatten_cons, List.append_assoc]

end LengthFieldPrepender

/-- However the output of the prepender is cut, the decoder with the same length field returns its
items and leaves nothing. -/
theorem LengthFieldBasedFrameDecoder.feed_encodeAll {lengthFieldLength maxFrameLength : Nat}
    (hfield : lengthFieldLength ∈ lengthFieldLengths) (hmax : maxFrameLength ≤ usizeMax)
    (byteOrder : ByteOrder) {items : List Bytes} {dst : BytesMut}
    (hencode : ((LengthFieldPrepender.new lengthFieldLength).withByteOrder byteOrder).encodeAll items
      [] = .ok () dst)
    (hfits : ∀ item ∈ items, lengthFieldLength + item.length ≤ maxFrameLength)
    {chunks : List Bytes} (hcut : chunks.flatten = dst) :
    ∃ self, LengthFieldBasedFrameDecoder.new maxFrameLength 0 lengthFieldLength = .ok self ∧
      feed (stateless decode) (self.withByteOrder byteOrder) [] chunks =
        (items, .waiting (self.withByteOrder byteOrder) []) := by
  obtain ⟨hlens, rfl⟩ := LengthFieldPrepender.encodeAll_eq_ok hfield hencode
  have hall : ∀ n ∈ lengthFieldLengths, 0 + n ≤ usizeMax := by decide
  refine ⟨⟨maxFrameLength, 0, lengthFieldLength, 0, lengthFieldLength, .bigEndian⟩, ?_, ?_⟩
  · rw [new, usizeAdd_of_le (hall _ hfield), Nat.zero_add]
    rfl
  · exact Plain.feed_lengthFields ⟨hfield, rfl, rfl, rfl⟩ hmax hlens hfits hcut

theorem LengthFieldBasedFrameDecoder.feed_encodeAll_u24 :
    ∃ self, LengthFieldBasedFrameDecoder.new 16 0 3 = .ok self ∧
      feed (stateless decode) (self.withByteOrder .littleEndian) [] [[2, 0], [0, 7], [8, 0, 0, 0]] =
        ([[7, 8], []], .waiting (self.withByteOrder .littleEndian) []) := by
  have hencode : ((LengthFieldPrepender.new 3).withByteOrder .littleEndian).encodeAll [[7, 8], []]
      [] = .ok () [2, 0, 0, 7, 8, 0, 0, 0] := runOn_eq_ok.1 (by decide)
  exact feed_encodeAll (by decide) (by decide) .littleEndian hencode (by decide) rfl

end RsNetty

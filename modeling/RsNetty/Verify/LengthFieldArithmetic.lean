import RsNetty.Verify.LengthFieldBasedFrame

/-!
# The arithmetic of a length field

`prescribe` says in unbounded integers what the decoder is to do with a buffer, and the decoder does
it with checked conversions between `u64`, `usize` and `isize` (`decode_prescribed`). From this
follows for which configurations and items the encoder and the decoder are inverse to each other.
-/

namespace RsNetty
open EStateM Segmentation

namespace LengthFieldBasedFrameDecoder
variable {self : LengthFieldBasedFrameDecoder} {src : BytesMut}

/-- The number in the length field. -/
def fieldValue (self : LengthFieldBasedFrameDecoder) (src : BytesMut) : Nat :=
  BigEndian.decode
    (self.byteOrder.arrange ((src.drop self.lengthFieldOffset).take self.lengthFieldLength))

/-- What is to become of a buffer. -/
inductive Prescription where
  | more
  | refuse
  | frame (frame rest : Bytes)
deriving DecidableEq, Repr

/-- The end of the frame is the end of the field, moved by the number in it and the adjustment. -/
def prescribe (self : LengthFieldBasedFrameDecoder) (src : BytesMut) : Prescription :=
  let fieldEnd := self.lengthFieldOffset + self.lengthFieldLength
  let adjusted : Int := self.fieldValue src + self.lengthAdjustment
  let frameEnd : Int := fieldEnd + adjusted
  if src.length < fieldEnd then .more
  else if self.lengthFieldLength ∉ lengthFieldLengths then .refuse
  else if adjusted < 0 ∨ frameEnd > self.maxFrameLength then .refuse
  else if src.length < frameEnd then .more
  else if self.initialBytesToStrip > frameEnd then .refuse
  else .frame ((src.take frameEnd.toNat).drop self.initialBytesToStrip) (src.drop frameEnd.toNat)

theorem readLength_unsupported (byteOrder : ByteOrder) {bytes : Bytes}
    (h : bytes.length ∉ lengthFieldLengths) :
    ∃ err, readLength byteOrder bytes = .error (.err err) := by
  unfold readLength
  split
  case h_11 => exact ⟨_, rfl⟩
  all_goals exact absurd (by simp [lengthFieldLengths]) h

theorem checkedAddSigned_eq_some {a : Nat} {b : Int} :
    checkedAddSigned a b = some c ↔ (a + b : Int) = c ∧ c ≤ usizeMax := by
  unfold checkedAddSigned
  split
  next hfits =>
    rw [Option.some.injEq]
    omega
  next hfits =>
    refine iff_of_false (Option.some_ne_none _).symm ?_
    omega

/-- A value, or an error where there is none. -/
theorem okOr_cases {x : Option α} (err : Error) :
    (∃ a, x = some a ∧ okOr x (.err err) = .ok a) ∨
      x = none ∧ okOr x (.err err) = .error (.err err) := by
  cases x with
  | some a => exact .inl ⟨a, rfl, rfl⟩
  | none => exact .inr ⟨rfl, rfl⟩

section Field
variable (hlen : self.lengthFieldOffset + self.lengthFieldLength ≤ src.length)
include hlen

theorem length_fieldBytes :
    ((src.drop self.lengthFieldOffset).take self.lengthFieldLength).length =
      self.lengthFieldLength := by
  rw [List.length_take, List.length_drop]
  omega

variable (hfield : self.lengthFieldOffset + self.lengthFieldLength ≤ usizeMax)
include hfield

/-- The slice that the field is read from. -/
theorem readFrameLength_eq :
    self.readFrameLength src = readLength self.byteOrder
      ((src.drop self.lengthFieldOffset).take self.lengthFieldLength) := by
  rw [readFrameLength, usizeAdd_of_le hfield, Except.ok_bind, slice_ok (by omega), Except.ok_bind,
    Nat.add_sub_cancel_left]

theorem frameEnd_unsupported (h : self.lengthFieldLength ∉ lengthFieldLengths) :
    ∃ err, self.frameEnd src (self.lengthFieldOffset + self.lengthFieldLength) =
      .error (.err err) := by
  rw [← length_fieldBytes hlen] at h
  obtain ⟨err, hread⟩ := readLength_unsupported self.byteOrder h
  refine ⟨err, ?_⟩
  rw [frameEnd, readFrameLength_eq hlen hfield, hread]
  rfl

variable (hsupported : self.lengthFieldLength ∈ lengthFieldLengths)
include hsupported

theorem readFrameLength_value : self.readFrameLength src = .ok (self.fieldValue src) := by
  rw [← length_fieldBytes hlen] at hsupported
  rw [readFrameLength_eq hlen hfield, readLength_eq _ hsupported, fieldValue]

theorem frameEnd_allowed {n : Nat} (hmax : self.maxFrameLength ≤ usizeMax)
    (hadjusted : (0 : Int) ≤ self.fieldValue src + self.lengthAdjustment)
    (hend : ((self.lengthFieldOffset + self.lengthFieldLength : Nat) : Int) +
      (self.fieldValue src + self.lengthAdjustment) = n)
    (hfits : n ≤ self.maxFrameLength) :
    self.frameEnd src (self.lengthFieldOffset + self.lengthFieldLength) = .ok n := by
  obtain ⟨adjusted, hadj⟩ := Int.eq_ofNat_of_zero_le hadjusted
  have hsum : self.lengthFieldOffset + self.lengthFieldLength + adjusted = n := by omega
  have hsigned := checkedAddSigned_eq_some.2 ⟨hadj, (by omega : adjusted ≤ usizeMax)⟩
  rw [frameEnd, readFrameLength_value hlen hfield hsupported, Except.ok_bind, hsigned, okOr,
    Except.ok_bind, checkedAdd_of_le (by omega), okOr, Except.ok_bind, hsum,
    failIf_eq_ok.2 (Nat.not_lt.2 hfits)]
  rfl

theorem frameEnd_refused
    (h : (self.fieldValue src + self.lengthAdjustment : Int) < 0 ∨
      ((self.lengthFieldOffset + self.lengthFieldLength : Nat) : Int) +
        (self.fieldValue src + self.lengthAdjustment) > self.maxFrameLength) :
    ∃ err, self.frameEnd src (self.lengthFieldOffset + self.lengthFieldLength) =
      .error (.err err) := by
  rw [frameEnd, readFrameLength_value hlen hfield hsupported, Except.ok_bind]
  rcases okOr_cases (x := checkedAddSigned (self.fieldValue src) self.lengthAdjustment)
    (.decode "negative adjusted frame length") with ⟨adjusted, hsigned, hok⟩ | ⟨-, herror⟩
  · rw [hok, Except.ok_bind]
    obtain ⟨hadj, -⟩ := checkedAddSigned_eq_some.1 hsigned
    rcases okOr_cases (x := checkedAdd (self.lengthFieldOffset + self.lengthFieldLength) adjusted)
      (.decode "frame length overflow") with ⟨frameEnd, hadd, hok⟩ | ⟨-, herror⟩
    · obtain ⟨-, rfl⟩ := checkedAdd_eq_some.1 hadd
      rw [hok, Except.ok_bind, failIf, if_pos (by omega)]
      exact ⟨_, rfl⟩
    · rw [herror]
      exact ⟨_, rfl⟩
  · rw [herror]
    exact ⟨_, rfl⟩

end Field

/-- The decoder does with a buffer what is prescribed. -/
def Follows (self : LengthFieldBasedFrameDecoder) (src : BytesMut) : Prescription → Prop
  | .more => self.decode src = .ok none src
  | .refuse => ∃ err, self.decode src = .error (.err err) src
  | .frame frame rest => self.decode src = .ok (some frame) rest

theorem follows_prescribe (hfield : self.lengthFieldOffset + self.lengthFieldLength ≤ usizeMax)
    (hmax : self.maxFrameLength ≤ usizeMax) (src : BytesMut) :
    self.Follows src (self.prescribe src) := by
  have hadd := usizeAdd_of_le hfield
  unfold prescribe
  dsimp only
  split
  next hshort => exact decode_noField hadd hshort
  next hlong =>
    have hlen := Nat.le_of_not_lt hlong
    split
    next hwidth =>
      obtain ⟨err, herror⟩ := frameEnd_unsupported hlen hfield hwidth
      exact ⟨err, decode_malformed hadd hlen herror⟩
    next hwidth =>
      have hwidth := not_not.1 hwidth
      split
      next hrefused =>
        obtain ⟨err, herror⟩ := frameEnd_refused hlen hfield hwidth hrefused
        exact ⟨err, decode_malformed hadd hlen herror⟩
      next hallowed =>
        rw [not_or, Int.not_lt, gt_iff_lt, Int.not_lt] at hallowed
        obtain ⟨hadjusted, hfits⟩ := hallowed
        generalize hend : ((self.lengthFieldOffset + self.lengthFieldLength : Nat) : Int) +
          (self.fieldValue src + self.lengthAdjustment) = frameEnd at hfits ⊢
        obtain ⟨n, rfl⟩ := Int.eq_ofNat_of_zero_le (by omega : 0 ≤ frameEnd)
        have hframe := frameEnd_allowed hlen hfield hwidth hmax hadjusted hend (by omega)
        split
        next hshort => exact decode_short hadd hlen hframe (by omega)
        next hcomplete =>
          split
          next hstrip => exact ⟨_, decode_overstripped hadd hlen hframe (by omega) (by omega)⟩
          next hstrip => exact decode_complete hadd hlen hframe (by omega) (by omega)

/-- The decoder does what unbounded arithmetic prescribes. It never panics, and only a frame changes
the buffer. -/
theorem decode_prescribed (self : LengthFieldBasedFrameDecoder)
    (hfield : self.lengthFieldOffset + self.lengthFieldLength ≤ usizeMax)
    (hmax : self.maxFrameLength ≤ usizeMax) (src : BytesMut) :
    match self.prescribe src with
    | .more => self.decode src = .ok none src
    | .refuse => ∃ err, self.decode src = .error (.err err) src
    | .frame frame rest => self.decode src = .ok (some frame) rest := by
  have h := follows_prescribe hfield hmax src
  cases hsrc : self.prescribe src with
  | more => rwa [hsrc] at h
  | refuse => rwa [hsrc] at h
  | frame frame rest => rwa [hsrc] at h

/-- The adjustment cuts the frame short by a byte. -/
theorem decode_prescribed_adjusted :
    (withAdjustment 16 1 2 (-1) 3).decode [9, 0, 3, 7, 8, 9] = .ok (some [7, 8]) [9] :=
  have h := decode_prescribed (withAdjustment 16 1 2 (-1) 3) (by decide) (by decide)
    [9, 0, 3, 7, 8, 9]
  have hframe : (withAdjustment 16 1 2 (-1) 3).prescribe [9, 0, 3, 7, 8, 9] = .frame [7, 8] [9] := by
    decide
  by rwa [hframe] at h

/-! ## Encoding and decoding -/

/-- Every configuration comes from `with_adjustment` and `byte_order`. -/
theorem eq_withAdjustment (self : LengthFieldBasedFrameDecoder) :
    self = (withAdjustment self.maxFrameLength self.lengthFieldOffset self.lengthFieldLength
      self.lengthAdjustment self.initialBytesToStrip).withByteOrder self.byteOrder :=
  rfl

/-- The item is refused, or what is written for it is decoded to it, whatever follows. -/
def InverseAt (self : LengthFieldBasedFrameDecoder) (item : Bytes) : Prop :=
  ∀ dst dst', self.encode item dst = .ok () dst' →
    ∃ w, dst' = dst ++ w ∧ ∀ r, self.decode (w ++ r) = .ok (some item) r

theorem writeLength_unsupported (len : Nat) {lengthFieldLength : Nat} (byteOrder : ByteOrder)
    (h : lengthFieldLength ∉ lengthFieldLengths) (dst : BytesMut) :
    ∃ e, writeLength len lengthFieldLength byteOrder dst = .error e dst := by
  unfold writeLength
  split
  case h_11 => exact ⟨_, rfl⟩
  all_goals exact absurd (by simp [lengthFieldLengths]) h

/-- What the encoder accepts, and what it writes. -/
theorem encode_eq_ok_iff {item : Bytes} {dst dst' : BytesMut} :
    self.encode item dst = .ok () dst' ↔
      (self.lengthFieldOffset = 0 ∧ self.lengthAdjustment = 0 ∧
        self.lengthFieldLength ∈ lengthFieldLengths ∧
        item.length < 256 ^ self.lengthFieldLength) ∧
      dst' = dst ++ (lengthField self.byteOrder self.lengthFieldLength item.length ++ item) := by
  by_cases hplain : self.lengthFieldOffset ≠ 0 ∨ self.lengthAdjustment ≠ 0
  · have hfail : self.encode item dst = .error (.encode
        "LengthFieldBasedFrameDecoder encoder supports zero offset and zero adjustment only") dst := by
      rw [encode, writeFrameLength, failIf, if_pos hplain]
      rfl
    rw [hfail]
    refine iff_of_false (fun h => by cases h) ?_
    rintro ⟨⟨hoffset, hadjustment, -⟩, -⟩
    exact hplain.elim (· hoffset) (· hadjustment)
  · have hzero := hplain
    rw [not_or, not_not, not_not] at hzero
    rw [encode_eq_prepender hzero.1 hzero.2]
    by_cases hwidth : self.lengthFieldLength ∈ lengthFieldLengths
    · constructor
      · intro h
        obtain ⟨hlen, hdst⟩ := LengthFieldPrepender.encode_eq_ok hwidth h
        exact ⟨⟨hzero.1, hzero.2, hwidth, hlen⟩, hdst⟩
      · rintro ⟨⟨-, -, -, hlen⟩, rfl⟩
        have hwrite : writeLength item.length self.lengthFieldLength self.byteOrder dst = .ok () _ :=
          (writeLength_eq_ok_iff self.byteOrder hwidth).2 ⟨hlen, rfl⟩
        rw [LengthFieldPrepender.encode, bind_of_ok hwrite, ← List.append_assoc]
        rfl
    · obtain ⟨e, herror⟩ := writeLength_unsupported item.length self.byteOrder hwidth dst
      rw [LengthFieldPrepender.encode, bind_of_error herror]
      exact iff_of_false (fun h => by cases h) fun h => hwidth h.1.2.2.1

section Plain
variable (hoffset : self.lengthFieldOffset = 0) (hadjustment : self.lengthAdjustment = 0)
  (hwidth : self.lengthFieldLength ∈ lengthFieldLengths) {item : Bytes}
  (hlen : item.length < 256 ^ self.lengthFieldLength)
include hoffset hadjustment hwidth hlen

/-- What is prescribed for an item behind its length. -/
theorem prescribe_lengthField (r : Bytes) :
    self.prescribe (lengthField self.byteOrder self.lengthFieldLength item.length ++ item ++ r) =
      if self.maxFrameLength < self.lengthFieldLength + item.length then .refuse
      else if self.lengthFieldLength + item.length < self.initialBytesToStrip then .refuse
      else .frame ((lengthField self.byteOrder self.lengthFieldLength item.length ++ item).drop
        self.initialBytesToStrip) r := by
  have hbytes := length_lengthField self.byteOrder self.lengthFieldLength item.length
  generalize hfield : lengthField self.byteOrder self.lengthFieldLength item.length = field at *
  have hvalue : self.fieldValue (field ++ item ++ r) = item.length := by
    rw [fieldValue, hoffset, List.drop_zero, List.append_assoc, List.take_left' hbytes, ← hfield,
      lengthField, ByteOrder.arrange_arrange, BigEndian.decode_encode hlen]
  have hsrc : (field ++ item ++ r).length = self.lengthFieldLength + item.length + r.length := by
    rw [List.length_append, List.length_append, hbytes]
  have hword : (field ++ item).length = self.lengthFieldLength + item.length := by
    rw [List.length_append, hbytes]
  have hend : ((0 + self.lengthFieldLength : Nat) : Int) + ((item.length : Int) + 0) =
      (self.lengthFieldLength + item.length : Nat) := by omega
  unfold prescribe
  simp only [hvalue, hoffset, hadjustment, hend, hsrc, gt_iff_lt, Nat.cast_lt, Int.toNat_natCast]
  rw [if_neg (by omega), if_neg (not_not.2 hwidth), List.take_left' hword, List.drop_left' hword]
  by_cases hmax : self.maxFrameLength < self.lengthFieldLength + item.length
  · rw [if_pos (.inr hmax), if_pos hmax]
  · rw [if_neg (by omega), if_neg (by omega), if_neg hmax]

end Plain

theorem decode_lengthField_iff (hoffset : self.lengthFieldOffset = 0)
    (hadjustment : self.lengthAdjustment = 0) (hwidth : self.lengthFieldLength ∈ lengthFieldLengths)
    (hmax : self.maxFrameLength ≤ usizeMax) {item : Bytes}
    (hlen : item.length < 256 ^ self.lengthFieldLength) (r : Bytes) :
    self.decode (lengthField self.byteOrder self.lengthFieldLength item.length ++ item ++ r) =
        .ok (some item) r ↔
      self.initialBytesToStrip = self.lengthFieldLength ∧
        self.lengthFieldLength + item.length ≤ self.maxFrameLength := by
  have hfield : self.lengthFieldOffset + self.lengthFieldLength ≤ usizeMax := by
    have hall : ∀ n ∈ lengthFieldLengths, 0 + n ≤ usizeMax := by decide
    rw [hoffset]
    exact hall _ hwidth
  have hfollows := follows_prescribe hfield hmax
    (lengthField self.byteOrder self.lengthFieldLength item.length ++ item ++ r)
  have hbytes := length_lengthField self.byteOrder self.lengthFieldLength item.length
  rw [prescribe_lengthField hoffset hadjustment hwidth hlen] at hfollows
  constructor
  · intro h
    split at hfollows
    · obtain ⟨err, herror⟩ := hfollows
      cases h.symm.trans herror
    · split at hfollows
      · obtain ⟨err, herror⟩ := hfollows
        cases h.symm.trans herror
      · have hsame := congrArg List.length (Option.some.inj (EStateM.Result.ok.inj
          (h.symm.trans hfollows)).1)
        rw [List.length_drop, List.length_append, hbytes] at hsame
        omega
  · rintro ⟨hstrip, hfits⟩
    rw [if_neg (Nat.not_lt.2 hfits), if_neg (by omega), hstrip, List.drop_left' hbytes] at hfollows
    exact hfollows

/-- The codec is its own inverse on an item exactly when it refuses to write the item, or strips the
length field and no more, and has room for the item behind it. -/
theorem inverseAt_iff (self : LengthFieldBasedFrameDecoder) (hmax : self.maxFrameLength ≤ usizeMax)
    (item : Bytes) :
    self.InverseAt item ↔
      (self.lengthFieldOffset = 0 → self.lengthAdjustment = 0 →
        self.lengthFieldLength ∈ lengthFieldLengths →
        item.length < 256 ^ self.lengthFieldLength →
        self.initialBytesToStrip = self.lengthFieldLength ∧
          self.lengthFieldLength + item.length ≤ self.maxFrameLength) := by
  constructor
  · intro h hoffset hadjustment hwidth hlen
    obtain ⟨w, hw, hdecode⟩ := h [] _
      (encode_eq_ok_iff.2 ⟨⟨hoffset, hadjustment, hwidth, hlen⟩, rfl⟩)
    rw [List.nil_append, List.nil_append] at hw
    have hempty := hdecode []
    rw [← hw] at hempty
    exact (decode_lengthField_iff hoffset hadjustment hwidth hmax hlen []).1 hempty
  · intro h dst dst' hencode
    obtain ⟨⟨hoffset, hadjustment, hwidth, hlen⟩, rfl⟩ := encode_eq_ok_iff.1 hencode
    exact ⟨_, rfl, fun r => (decode_lengthField_iff hoffset hadjustment hwidth hmax hlen r).2
      (h hoffset hadjustment hwidth hlen)⟩

theorem inverseAt_u16 : (withAdjustment 16 0 2 0 2).InverseAt [7, 8] :=
  (inverseAt_iff (withAdjustment 16 0 2 0 2) (by decide) [7, 8]).2 fun _ _ _ _ => by decide

/-- A decoder that keeps the length field, and one without room for the item. -/
theorem not_inverseAt_plain :
    (¬∀ (self : LengthFieldBasedFrameDecoder) (item : Bytes), self.maxFrameLength ≤ usizeMax →
      self.InverseAt item) ∧
    ∃ self, LengthFieldBasedFrameDecoder.new 2 0 1 = .ok self ∧ ¬self.InverseAt [7, 8] := by
  constructor
  · intro h
    obtain ⟨w, hw, hdecode⟩ := h (withAdjustment 16 0 1 0 0) [7] (by decide) [] [1, 7]
      (runOn_eq_ok.1 (by decide))
    rw [List.nil_append] at hw
    subst hw
    have hkept : (withAdjustment 16 0 1 0 0).decode [1, 7] = .ok (some [1, 7]) [] :=
      runOn_eq_ok.1 (by decide)
    cases hkept.symm.trans (hdecode [])
  · refine ⟨⟨2, 0, 1, 0, 1, .bigEndian⟩, by decide, fun h => ?_⟩
    obtain ⟨w, hw, hdecode⟩ := h [] [2, 7, 8] (runOn_eq_ok.1 (by decide))
    rw [List.nil_append] at hw
    subst hw
    have hlong : ∃ t, (⟨2, 0, 1, 0, 1, .bigEndian⟩ : LengthFieldBasedFrameDecoder).decode
        [2, 7, 8] = .error (.err (.frameTooLarge 3 2)) t := runOn_eq_error.1 (by decide)
    obtain ⟨t, hlong⟩ := hlong
    cases hlong.symm.trans (hdecode [])

end LengthFieldBasedFrameDecoder

end RsNetty

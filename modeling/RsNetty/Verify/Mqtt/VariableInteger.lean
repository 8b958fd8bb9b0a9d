import RsNetty.Verify.Mqtt.Framing
import RsNetty.Verify.Mqtt.Reader

/-!
# Variable byte integers

The reader of a Remaining Length, the reader of a field and the writer have loops of their own. All
three are about the shortest numerals of at most four bytes (`BeginsWith`).
-/

namespace RsNetty.Mqtt
open EStateM Reader Cursor

variable {b : Bytes} {v n : Nat} {u : UInt32}

/-- The first `n` bytes are the shortest numeral of `v`. -/
def BeginsWith (b : Bytes) (v n : Nat) : Prop :=
  v ≤ maxRemainingLength ∧ (Varint.encode v).length = n ∧ Varint.encode v <+: b

theorem beginsWith_append (h : v ≤ maxRemainingLength) (r : Bytes) :
    BeginsWith (Varint.encode v ++ r) v (Varint.encode v).length :=
  ⟨h, rfl, List.prefix_append _ _⟩

theorem BeginsWith.exists_toNat (h : BeginsWith b v n) : ∃ u : UInt32, u.toNat = v := by
  refine ⟨UInt32.ofNat v, UInt32.toNat_ofNat_of_lt' ?_⟩
  exact Nat.lt_of_le_of_lt h.1 (by decide)

/-! ## The Remaining Length -/

theorem decodeRemainingLengthPrefix_eq_some :
    decodeRemainingLengthPrefix b = .ok (some (v, n)) ↔ BeginsWith b v n := by
  constructor
  · intro h
    obtain ⟨hmax, rfl, r, rfl⟩ := decodeRemainingLengthPrefix_some h
    exact beginsWith_append hmax r
  · rintro ⟨hmax, rfl, r, rfl⟩
    exact decodeRemainingLengthPrefix_encode hmax r

theorem decodeRemainingLengthPrefix_eq_none :
    decodeRemainingLengthPrefix b = .ok none ↔ b.length < 4 ∧ ∀ x ∈ b, x &&& 0x80 ≠ 0 := by
  simp only [ne_eq, and_80_eq_zero_iff, Nat.not_lt]
  rcases numeral_or b with ⟨w, r, rfl, hw, hlen⟩ | hbs
  · rw [decodeRemainingLengthPrefix_terminated hw hlen]
    obtain ⟨x, hx, hlt⟩ := hw.exists_lt
    refine iff_of_false ?_ fun h => ?_
    · split <;> exact fun h => nomatch h
    · exact Nat.not_lt.2 (h.2 x (List.mem_append_left r hx)) hlt
  · rw [decodeRemainingLengthPrefix_unterminated hbs]
    by_cases hlen : b.length < 4
    · rw [List.take_of_length_le (Nat.le_of_lt hlen)] at hbs
      exact iff_of_true (if_neg (Nat.not_le.2 hlen)) ⟨hlen, hbs⟩
    · rw [if_pos (Nat.le_of_not_lt hlen)]
      exact iff_of_false (fun h => nomatch h) fun h => hlen h.1

theorem decodeRemainingLengthPrefix_error (h : decodeRemainingLengthPrefix b = .error e) :
    Returned e := by
  rcases numeral_or b with ⟨w, r, rfl, hw, hlen⟩ | hbs
  · rw [decodeRemainingLengthPrefix_terminated hw hlen] at h
    split at h <;> cases h
    exact returned_decode _
  · rw [decodeRemainingLengthPrefix_unterminated hbs] at h
    split at h <;> cases h
    exact returned_decode _

/-! ## The field of a packet -/

theorem readVariableInteger_eq_ok (hc : At c b) :
    readVariableInteger c = .ok u (skip c n) ↔ BeginsWith b u.toNat n := by
  constructor
  · intro h
    obtain ⟨w, r, rfl, hskip, hmax, rfl⟩ := parses_readVariableInteger c b u _ hc h
    have hn : c.pos + n = c.pos + (Varint.encode u.toNat).length := congrArg Reader.pos hskip
    rw [Nat.add_left_cancel hn]
    exact beginsWith_append hmax r
  · rintro ⟨hmax, rfl, r, rfl⟩
    exact readVariableInteger_ok hmax hc

/-- The field is refused when no numeral begins here. -/
theorem readVariableInteger_error (hc : At c b) (h : ∀ v n, ¬BeginsWith b v n) :
    ∃ e c', readVariableInteger c = .error (.err e) c' := by
  cases hread : readVariableInteger c with
  | ok u c' =>
    obtain ⟨w, r, rfl, -, hmax, rfl⟩ := parses_readVariableInteger c b u c' hc hread
    exact absurd (beginsWith_append hmax r) (h _ _)
  | error e c' =>
    cases e with
    | err e => exact ⟨e, c', rfl⟩
    | panic => exact absurd rfl (throws_readVariableInteger c b _ c' hc hread).1

/-! ## What is written -/

theorem emits_take_iff :
    n ≤ b.length ∧ Emits (writeVariableInteger u) () (b.take n) ↔ BeginsWith b u.toNat n := by
  constructor
  · rintro ⟨hn, hw⟩
    by_cases hmax : u.toNat ≤ maxRemainingLength
    · obtain ⟨-, htake⟩ := hw.inj (emits_writeVariableInteger hmax)
      refine ⟨hmax, ?_, htake ▸ List.take_prefix n b⟩
      rw [← htake, List.length_take_of_le hn]
    · have hrefused := hw []
      rw [writeVariableInteger, if_pos (Nat.lt_of_not_le hmax)] at hrefused
      cases hrefused
  · rintro ⟨hmax, rfl, r, rfl⟩
    rw [List.take_left, List.length_append]
    exact ⟨Nat.le_add_right _ _, emits_writeVariableInteger hmax⟩

/-- What is written has the length that the readers count, the readers take the same fields for the
same values, which are the fields that are written, and where one of them takes nothing the other
refuses, or waits for the rest of at most four bytes. -/
theorem variableInteger_agree :
    (∀ (u : UInt32) (dst : BytesMut), u.toNat ≤ maxRemainingLength →
      ∃ w, writeVariableInteger u dst = .ok () (dst ++ w) ∧
        w.length = remainingLengthLen u.toNat) ∧
    ∀ before b : Bytes,
      (∀ v n,
        (decodeRemainingLengthPrefix b = .ok (some (v, n)) ↔
          ∃ u : UInt32, u.toNat = v ∧
            readVariableInteger ⟨before ++ b, before.length⟩ =
              .ok u ⟨before ++ b, before.length + n⟩) ∧
        (decodeRemainingLengthPrefix b = .ok (some (v, n)) ↔
          ∃ u : UInt32, u.toNat = v ∧
            n ≤ b.length ∧ Emits (writeVariableInteger u) () (b.take n))) ∧
      ((∀ v n, decodeRemainingLengthPrefix b ≠ .ok (some (v, n))) →
        ∃ e reader, readVariableInteger ⟨before ++ b, before.length⟩ = .error (.err e) reader) ∧
      (decodeRemainingLengthPrefix b = .ok none ↔ b.length < 4 ∧ ∀ x ∈ b, x &&& 0x80 ≠ 0) ∧
      ∀ e, decodeRemainingLengthPrefix b = .error e → Returned e := by
  constructor
  · intro u dst hmax
    exact ⟨_, emits_writeVariableInteger hmax dst, (remainingLengthLen_eq _).symm⟩
  · intro before b
    have hc : At (⟨before ++ b, before.length⟩ : Reader) b := by
      refine ⟨?_, List.drop_left⟩
      rw [List.length_append]
      exact Nat.le_add_right _ _
    refine ⟨fun v n => ?_, fun h => ?_, decodeRemainingLengthPrefix_eq_none, fun e =>
      decodeRemainingLengthPrefix_error⟩
    · rw [decodeRemainingLengthPrefix_eq_some]
      constructor
      · constructor
        · intro h
          obtain ⟨u, rfl⟩ := h.exists_toNat
          exact ⟨u, rfl, (readVariableInteger_eq_ok hc).2 h⟩
        · rintro ⟨u, rfl, h⟩
          exact (readVariableInteger_eq_ok hc).1 h
      · constructor
        · intro h
          obtain ⟨u, rfl⟩ := h.exists_toNat
          exact ⟨u, rfl, emits_take_iff.2 h⟩
        · rintro ⟨u, rfl, h⟩
          exact emits_take_iff.1 h
    · simp only [ne_eq, decodeRemainingLengthPrefix_eq_some] at h
      exact readVariableInteger_error hc h

end RsNetty.Mqtt

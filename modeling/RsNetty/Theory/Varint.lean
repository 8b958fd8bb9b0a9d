import Mathlib.Tactic.Ring

/-!
# Variable-length base-128 integers

Little-endian groups of seven bits; the high bit of a byte says that another one follows.
`encode` writes the least number of groups, `Terminated` is the shape of any such numeral, padded
or not, and `eq_encode` says that a numeral no longer than the least is the least one.
-/

namespace Varint

/-- The shortest numeral of `v`. -/
def encode (v : Nat) : List UInt8 :=
  if v < 128 then [UInt8.ofNat v] else UInt8.ofNat (v % 128 + 128) :: encode (v / 128)
termination_by v
decreasing_by omega

/-- The value of a numeral. -/
def value : List UInt8 → Nat
  | [] => 0
  | b :: bs => b.toNat % 128 + 128 * value bs

/-- Every byte but the last carries the continuation bit. -/
def Terminated : List UInt8 → Prop
  | [] => False
  | [b] => b.toNat < 128
  | b :: bs => 128 ≤ b.toNat ∧ Terminated bs

theorem value_lt (bs : List UInt8) : value bs < 128 ^ bs.length := by
  induction bs with
  | nil => exact Nat.one_pos
  | cons b bs ih =>
    rw [value, List.length_cons, Nat.pow_succ]
    omega

theorem encode_of_lt {v : Nat} (h : v < 128) : encode v = [UInt8.ofNat v] := by
  rw [encode, if_pos h]

theorem encode_of_ge {v : Nat} (h : 128 ≤ v) :
    encode v = UInt8.ofNat (v % 128 + 128) :: encode (v / 128) := by
  rw [encode, if_neg (by omega)]

theorem encode_ne_nil (v : Nat) : encode v ≠ [] := by
  rw [encode]
  split <;> simp

theorem length_encode_pos (v : Nat) : 0 < (encode v).length :=
  List.length_pos_iff.2 (encode_ne_nil v)

/-- A value below `128 ^ n` takes at most `n` groups. -/
theorem length_encode_le {n v : Nat} (h : v < 128 ^ (n + 1)) : (encode v).length ≤ n + 1 := by
  induction n generalizing v with
  | zero => rw [encode_of_lt (by simpa using h)]; simp
  | succ n ih =>
    by_cases hv : v < 128
    · rw [encode_of_lt hv]; simp
    · have hd : v / 128 < 128 ^ (n + 1) := by
        rw [Nat.div_lt_iff_lt_mul (by decide)]
        rwa [Nat.pow_succ] at h
      rw [encode_of_ge (by omega), List.length_cons]
      exact Nat.succ_le_succ (ih hd)

theorem length_encode_mono {u v : Nat} (h : u ≤ v) : (encode u).length ≤ (encode v).length := by
  induction u using Nat.strongRecOn generalizing v with
  | ind u ih =>
    by_cases hu : u < 128
    · rw [encode_of_lt hu]
      exact length_encode_pos v
    · rw [encode_of_ge (v := u) (by omega), encode_of_ge (v := v) (by omega)]
      exact Nat.succ_le_succ (ih (u / 128) (by omega) (by omega))

theorem Terminated.cons {b : UInt8} (hb : 128 ≤ b.toNat) {bs : List UInt8} (h : Terminated bs) :
    Terminated (b :: bs) := by
  cases bs with
  | nil => exact h.elim
  | cons _ _ => exact ⟨hb, h⟩

theorem Terminated.exists_lt {bs : List UInt8} (h : Terminated bs) : ∃ b ∈ bs, b.toNat < 128 := by
  induction bs with
  | nil => exact h.elim
  | cons b bs ih =>
    cases bs with
    | nil => exact ⟨b, .head _, h⟩
    | cons c cs =>
      obtain ⟨d, hd, hlt⟩ := ih h.2
      exact ⟨d, .tail _ hd, hlt⟩

/-- A byte string either begins with a numeral or consists of continued groups only. -/
theorem terminated_or (bs : List UInt8) :
    (∃ w r, bs = w ++ r ∧ Terminated w) ∨ ∀ b ∈ bs, 128 ≤ b.toNat := by
  induction bs with
  | nil => exact .inr (by simp)
  | cons b bs ih =>
    by_cases hb : b.toNat < 128
    · exact .inl ⟨[b], bs, rfl, hb⟩
    · rcases ih with ⟨w, r, rfl, hw⟩ | h
      · exact .inl ⟨b :: w, r, rfl, hw.cons (by omega)⟩
      · exact .inr (List.forall_mem_cons.2 ⟨by omega, h⟩)

theorem terminated_encode (v : Nat) : Terminated (encode v) := by
  induction v using Nat.strongRecOn with
  | ind v ih =>
    by_cases hv : v < 128
    · rw [encode_of_lt hv]
      change (UInt8.ofNat v).toNat < 128
      rw [UInt8.toNat_ofNat']
      omega
    · rw [encode_of_ge (by omega)]
      refine Terminated.cons ?_ (ih (v / 128) (by omega))
      rw [UInt8.toNat_ofNat']
      omega

/-- Decoding undoes encoding. -/
theorem value_encode (v : Nat) : value (encode v) = v := by
  induction v using Nat.strongRecOn with
  | ind v ih =>
    by_cases hv : v < 128
    · rw [encode_of_lt hv, value, value, UInt8.toNat_ofNat']
      omega
    · rw [encode_of_ge (by omega), value, ih (v / 128) (by omega), UInt8.toNat_ofNat']
      omega

/-- A numeral no longer than the shortest one is the shortest one. -/
theorem eq_encode {bs : List UInt8} (h : Terminated bs)
    (hlen : (encode (value bs)).length = bs.length) : bs = encode (value bs) := by
  induction bs with
  | nil => exact h.elim
  | cons b bs ih =>
    have hb := b.toNat_lt
    cases bs with
    | nil =>
      have hb : b.toNat < 128 := h
      have hv : value [b] = b.toNat := by simp [value]; omega
      rw [hv, encode_of_lt hb, UInt8.ofNat_toNat]
    | cons c cs =>
      have hd : value (b :: c :: cs) / 128 = value (c :: cs) := by rw [value]; omega
      have hm : value (b :: c :: cs) % 128 + 128 = b.toNat := by
        have := h.1
        rw [value]; omega
      have hge : 128 ≤ value (b :: c :: cs) := by
        by_contra hlt
        rw [encode_of_lt (by omega)] at hlen
        simp at hlen
      rw [encode_of_ge hge, hd, List.length_cons, List.length_cons (a := b)] at hlen
      rw [encode_of_ge hge, hd, hm, UInt8.ofNat_toNat, ← ih h.2 (Nat.succ.inj hlen)]

end Varint

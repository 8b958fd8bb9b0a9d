import Mathlib.Tactic.Ring

/-!
# Fixed-width big-endian numerals

`encode n v` is the `n`-byte big-endian form of `v` (modulo `256 ^ n`), `decode` the value of a
byte string. `decode_encode` and `encode_decode` make them inverse on values below `256 ^ n` and
on strings of length `n`.
-/

namespace BigEndian

/-- The `n` low bytes of `v`, most significant first. -/
def encode : Nat → Nat → List UInt8
  | 0, _ => []
  | n + 1, v => UInt8.ofNat (v / 256 ^ n) :: encode n v

/-- The number a byte string denotes, most significant byte first. -/
def decode : List UInt8 → Nat
  | [] => 0
  | b :: bs => b.toNat * 256 ^ bs.length + decode bs

@[simp] theorem length_encode (n v : Nat) : (encode n v).length = n := by
  induction n with
  | zero => rfl
  | succ n ih => simp [encode, ih]

theorem decode_lt (bs : List UInt8) : decode bs < 256 ^ bs.length := by
  induction bs with
  | nil => simp [decode]
  | cons b bs ih =>
    have hb : b.toNat + 1 ≤ 256 := b.toNat_lt
    calc b.toNat * 256 ^ bs.length + decode bs
        < b.toNat * 256 ^ bs.length + 256 ^ bs.length := Nat.add_lt_add_left ih _
      _ = (b.toNat + 1) * 256 ^ bs.length := by ring
      _ ≤ 256 * 256 ^ bs.length := Nat.mul_le_mul_right _ hb
      _ = 256 ^ (b :: bs).length := by rw [List.length_cons, Nat.pow_succ]; ring

theorem decode_encode_mod (n v : Nat) : decode (encode n v) = v % 256 ^ n := by
  induction n with
  | zero => simp [encode, decode, Nat.mod_one]
  | succ n ih =>
    have hsplit : v % 256 ^ (n + 1) = v % 256 ^ n + 256 ^ n * (v / 256 ^ n % 256) :=
      Nat.mod_pow_succ
    rw [encode, decode, ih, length_encode, UInt8.toNat_ofNat', hsplit, Nat.add_comm, Nat.mul_comm]

/-- Decoding undoes encoding on the values that fit. -/
theorem decode_encode {n v : Nat} (h : v < 256 ^ n) : decode (encode n v) = v := by
  rw [decode_encode_mod, Nat.mod_eq_of_lt h]

theorem encode_add_mul (n v k : Nat) : encode n (k * 256 ^ n + v) = encode n v := by
  induction n generalizing k with
  | zero => rfl
  | succ n ih =>
    have hdiv : (k * 256 ^ (n + 1) + v) / 256 ^ n = v / 256 ^ n + 256 * k := by
      rw [show k * 256 ^ (n + 1) + v = v + 256 ^ n * (256 * k) by ring,
        Nat.add_mul_div_left _ _ (Nat.pow_pos (by decide))]
    have hrest : encode n (k * 256 ^ (n + 1) + v) = encode n v := by
      rw [show k * 256 ^ (n + 1) + v = 256 * k * 256 ^ n + v by ring, ih]
    rw [encode, encode, hrest, hdiv]
    congr 1
    apply UInt8.toNat.inj
    simp

/-- Encoding undoes decoding. -/
theorem encode_decode (bs : List UInt8) : encode bs.length (decode bs) = bs := by
  induction bs with
  | nil => rfl
  | cons b bs ih =>
    have hdiv : (b.toNat * 256 ^ bs.length + decode bs) / 256 ^ bs.length = b.toNat := by
      rw [Nat.mul_comm, Nat.mul_add_div (Nat.pow_pos (by decide)),
        Nat.div_eq_of_lt (decode_lt bs), Nat.add_zero]
    rw [List.length_cons, encode, decode, hdiv, encode_add_mul, ih, UInt8.ofNat_toNat]

end BigEndian

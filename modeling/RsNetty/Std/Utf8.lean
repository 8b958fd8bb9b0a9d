import RsNetty.Error
import Mathlib.Tactic.Ring

/-!
# UTF-8

A Rust `String` is a sequence of Unicode scalar values kept in UTF-8, which is what `String` is
here: `asBytes` and `fromUtf8` are the two directions. A rejected byte string is described by the
length of its longest valid prefix and by the length of the bad sequence, unless the input ends in
the middle of a sequence.
-/

namespace RsNetty

/-- `std::str::Utf8Error` -/
structure Utf8Error where
  validUpTo : Nat
  errorLen : Option Nat
deriving DecidableEq, Repr

/-- The `Display` text. -/
def Utf8Error.display (e : Utf8Error) : String :=
  match e.errorLen with
  | some len => s!"invalid utf-8 sequence of {len} bytes from index {e.validUpTo}"
  | none => s!"incomplete utf-8 byte sequence from index {e.validUpTo}"

private def isCont (b : UInt8) : Bool := 0x80 ≤ b && b ≤ 0xbf

/-- The second bytes that may follow the first byte of a three-byte sequence. -/
private def isSecond3 (first b : UInt8) : Bool :=
  if first = 0xe0 then 0xa0 ≤ b && b ≤ 0xbf
  else if first = 0xed then 0x80 ≤ b && b ≤ 0x9f
  else isCont b

/-- The second bytes that may follow the first byte of a four-byte sequence. -/
private def isSecond4 (first b : UInt8) : Bool :=
  if first = 0xf0 then 0x90 ≤ b && b ≤ 0xbf
  else if first = 0xf4 then 0x80 ≤ b && b ≤ 0x8f
  else isCont b

/-- Scan for the first bad sequence; `i` is the index of the head of the list. -/
def utf8Error (i : Nat) : List UInt8 → Option Utf8Error
  | [] => none
  | b :: bs =>
    if b < 0x80 then utf8Error (i + 1) bs
    else if 0xc2 ≤ b && b ≤ 0xdf then
      match bs with
      | [] => some ⟨i, none⟩
      | c₁ :: bs => if isCont c₁ then utf8Error (i + 2) bs else some ⟨i, some 1⟩
    else if 0xe0 ≤ b && b ≤ 0xef then
      match bs with
      | [] => some ⟨i, none⟩
      | c₁ :: bs =>
        if !isSecond3 b c₁ then some ⟨i, some 1⟩
        else match bs with
          | [] => some ⟨i, none⟩
          | c₂ :: bs => if isCont c₂ then utf8Error (i + 3) bs else some ⟨i, some 2⟩
    else if 0xf0 ≤ b && b ≤ 0xf4 then
      match bs with
      | [] => some ⟨i, none⟩
      | c₁ :: bs =>
        if !isSecond4 b c₁ then some ⟨i, some 1⟩
        else match bs with
          | [] => some ⟨i, none⟩
          | c₂ :: bs =>
            if !isCont c₂ then some ⟨i, some 2⟩
            else match bs with
              | [] => some ⟨i, none⟩
              | c₃ :: bs => if isCont c₃ then utf8Error (i + 4) bs else some ⟨i, some 3⟩
    else some ⟨i, some 1⟩

/-- `s.as_bytes()` -/
def asBytes (s : String) : Bytes := s.toByteArray.data.toList

/-- `String::from_utf8(bytes)`, and `std::str::from_utf8(bytes)` -/
def fromUtf8 (bytes : Bytes) : Except Utf8Error String :=
  match String.fromUTF8? ⟨bytes.toArray⟩ with
  | some s => .ok s
  | none => .error ((utf8Error 0 bytes).getD ⟨0, none⟩)

theorem fromUtf8_eq_ok {bytes : Bytes} : fromUtf8 bytes = .ok s ↔ asBytes s = bytes := by
  unfold fromUtf8 String.fromUTF8?
  by_cases h : (ByteArray.mk bytes.toArray).IsValidUTF8
  · rw [dif_pos h]
    simp only [Except.ok.injEq]
    constructor
    · rintro rfl
      rfl
    · rintro rfl
      rfl
  · rw [dif_neg h]
    simp only [reduceCtorEq, false_iff]
    rintro rfl
    exact h s.isValidUTF8

@[simp] theorem fromUtf8_asBytes (s : String) : fromUtf8 (asBytes s) = .ok s :=
  fromUtf8_eq_ok.2 rfl

/-! ## Characters -/

theorem asBytes_eq_flatMap (s : String) : asBytes s = s.toList.flatMap String.utf8EncodeChar := by
  rw [asBytes, ← String.utf8Encode_toList, List.utf8Encode]
  simp

theorem asBytes_ofList (cs : List Char) :
    asBytes (String.ofList cs) = cs.flatMap String.utf8EncodeChar := by
  rw [asBytes_eq_flatMap, String.toList_ofList]

/-- A character whose encoding ends in an ASCII byte is that byte. -/
theorem utf8EncodeChar_ascii {c : Char} {b : UInt8} (hb : b < 0x80)
    (h : ∃ bs, String.utf8EncodeChar c = bs ++ [b]) :
    c = Char.ofNat b.toNat ∧ String.utf8EncodeChar c = [b] := by
  obtain ⟨bs, h⟩ := h
  have hlast := congrArg List.getLast? h
  rw [List.getLast?_concat] at hlast
  have hcont : ∀ v : Nat, UInt8.ofNat (v % 0x40 + 0x80) ≠ b := by
    rintro v rfl
    rw [UInt8.lt_iff_toNat_lt, UInt8.toNat_ofNat'] at hb
    have : (v % 64 + 128) % 2 ^ 8 = v % 64 + 128 := Nat.mod_eq_of_lt (by omega)
    rw [this] at hb
    exact absurd hb (by simp)
  unfold String.utf8EncodeChar at hlast ⊢
  simp only at hlast ⊢
  split at hlast
  case isTrue hv =>
    rw [if_pos hv]
    obtain rfl : UInt8.ofNat c.val.toNat = b := Option.some.inj hlast
    have hsmall : c.val.toNat % 2 ^ 8 = c.val.toNat := Nat.mod_eq_of_lt (by omega)
    refine ⟨?_, rfl⟩
    rw [UInt8.toNat_ofNat', hsmall]
    exact (Char.ofNat_toNat c).symm
  case isFalse =>
    split at hlast
    case isTrue => exact absurd (Option.some.inj hlast) (hcont _)
    case isFalse =>
      split at hlast
      case isTrue => exact absurd (Option.some.inj hlast) (hcont _)
      case isFalse => exact absurd (Option.some.inj hlast) (hcont _)

theorem flatMap_utf8EncodeChar_concat {cs : List Char} {bs : Bytes} {b : UInt8} (hb : b < 0x80)
    (h : cs.flatMap String.utf8EncodeChar = bs ++ [b]) :
    ∃ cs', cs = cs' ++ [Char.ofNat b.toNat] ∧ cs'.flatMap String.utf8EncodeChar = bs := by
  rcases List.eq_nil_or_concat cs with rfl | ⟨cs', c, rfl⟩
  · simp at h
  · rw [List.concat_eq_append, List.flatMap_append, List.flatMap_singleton] at h
    have hc : ∃ bs', String.utf8EncodeChar c = bs' ++ [b] := by
      rcases List.eq_nil_or_concat (String.utf8EncodeChar c) with hnil | ⟨bs', b', hc⟩
      · exact absurd hnil String.utf8EncodeChar_ne_nil
      · rw [List.concat_eq_append] at hc
        rw [hc, ← List.append_assoc] at h
        cases (List.append_inj' h rfl).2
        exact ⟨bs', hc⟩
    obtain ⟨hchar, henc⟩ := utf8EncodeChar_ascii hb hc
    rw [henc] at h
    exact ⟨cs', by rw [List.concat_eq_append, hchar], (List.append_inj' h rfl).1⟩

/-- An ASCII byte only occurs as the encoding of its character. -/
theorem char_of_mem_utf8EncodeChar {c : Char} {b : UInt8} (hb : b < 0x80)
    (h : b ∈ String.utf8EncodeChar c) : c = Char.ofNat b.toNat := by
  have hhigh (v k : Nat) (hk : 128 ≤ k) (hv : v + k < 256) (heq : b = UInt8.ofNat (v + k)) : False := by
    subst heq
    rw [UInt8.lt_iff_toNat_lt, UInt8.toNat_ofNat_of_lt' hv] at hb
    exact absurd hb (by simp; omega)
  unfold String.utf8EncodeChar at h
  simp only at h
  split at h
  case isTrue hv =>
    obtain rfl := List.mem_singleton.1 h
    have hsmall : c.val.toNat % 2 ^ 8 = c.val.toNat := Nat.mod_eq_of_lt (by omega)
    rw [UInt8.toNat_ofNat', hsmall]
    exact (Char.ofNat_toNat c).symm
  case isFalse =>
    exfalso
    split at h
    case isTrue =>
      simp only [List.mem_cons, List.not_mem_nil, or_false] at h
      rcases h with h | h
      · exact hhigh _ _ (by omega) (by omega) h
      · exact hhigh _ _ (by omega) (by omega) h
    case isFalse =>
      split at h
      case isTrue =>
        simp only [List.mem_cons, List.not_mem_nil, or_false] at h
        rcases h with h | h | h
        · exact hhigh _ _ (by omega) (by omega) h
        · exact hhigh _ _ (by omega) (by omega) h
        · exact hhigh _ _ (by omega) (by omega) h
      case isFalse =>
        simp only [List.mem_cons, List.not_mem_nil, or_false] at h
        rcases h with h | h | h | h
        · exact hhigh _ _ (by omega) (by omega) h
        · exact hhigh _ _ (by omega) (by omega) h
        · exact hhigh _ _ (by omega) (by omega) h
        · exact hhigh _ _ (by omega) (by omega) h

theorem mem_asBytes_ofList {cs : List Char} {b : UInt8} (hb : b < 0x80)
    (h : b ∈ asBytes (String.ofList cs)) : Char.ofNat b.toNat ∈ cs := by
  rw [asBytes_ofList] at h
  obtain ⟨c, hc, hbc⟩ := List.mem_flatMap.1 h
  exact char_of_mem_utf8EncodeChar hb hbc ▸ hc

theorem asBytes_append (s t : List Char) :
    asBytes (String.ofList (s ++ t)) = asBytes (String.ofList s) ++ asBytes (String.ofList t) := by
  simp only [asBytes_ofList, List.flatMap_append]

/-- What stands before ASCII bytes is valid by itself. -/
theorem fromUtf8_append_ascii {bs w : Bytes} (hw : ∀ b ∈ w, b < 0x80)
    (h : fromUtf8 (bs ++ w) = .ok s) :
    ∃ t, fromUtf8 bs = .ok t ∧ s.toList = t.toList ++ w.map fun b => Char.ofNat b.toNat := by
  induction w generalizing bs with
  | nil => exact ⟨s, by rwa [List.append_nil] at h, (List.append_nil _).symm⟩
  | cons b w ih =>
    rw [List.append_cons] at h
    obtain ⟨t, ht, hs⟩ := ih (fun c hc => hw c (List.mem_cons_of_mem _ hc)) h
    rw [fromUtf8_eq_ok, asBytes_eq_flatMap] at ht
    obtain ⟨cs, hcs, hbs⟩ := flatMap_utf8EncodeChar_concat (hw b List.mem_cons_self) ht
    refine ⟨String.ofList cs, fromUtf8_eq_ok.2 (by rw [asBytes_ofList, hbs]), ?_⟩
    rw [hs, hcs, String.toList_ofList, List.map_cons, List.append_assoc]
    rfl

example : (fromUtf8 [0x61, 0xe2, 0x82]).mapError Utf8Error.display =
    .error "incomplete utf-8 byte sequence from index 1" := by decide

end RsNetty

import RsNetty.Error
import Mathlib.Data.List.DropRight

/-!
# String slices

A `&str` is the list of its characters here. These are the methods of `str` and the integer parser
of the standard library that the HTTP parser calls.
-/

namespace RsNetty.Str

/-- `char::is_whitespace`, the Unicode property `White_Space`. -/
def isWhitespace (c : Char) : Bool :=
  let n := c.toNat
  (0x09 ≤ n && n ≤ 0x0d) || n == 0x20 || n == 0x85 || n == 0xa0 || n == 0x1680 ||
    (0x2000 ≤ n && n ≤ 0x200a) || n == 0x2028 || n == 0x2029 || n == 0x202f || n == 0x205f ||
    n == 0x3000

/-- `s.trim()` -/
def trim (s : List Char) : List Char := (s.dropWhile isWhitespace).rdropWhile isWhitespace

/-- `s.split_whitespace()` -/
def splitWhitespace (s : List Char) : List (List Char) :=
  (s.splitOnP isWhitespace).filter (· ≠ [])

/-- `s.split("\r\n")` -/
def splitCrlf : List Char → List (List Char)
  | '\r' :: '\n' :: s => [] :: splitCrlf s
  | c :: s => (splitCrlf s).modifyHead (c :: ·)
  | [] => [[]]

/-- `s.split_once(c)` -/
def splitOnce (c : Char) : List Char → Option (List Char × List Char)
  | [] => none
  | d :: s => if d = c then some ([], s) else (splitOnce c s).map fun (a, b) => (d :: a, b)

/-- `c.to_ascii_lowercase()` -/
def toAsciiLowercase (c : Char) : Char :=
  if 'A' ≤ c ∧ c ≤ 'Z' then Char.ofNat (c.toNat + 32) else c

/-- `s.eq_ignore_ascii_case(t)` -/
def eqIgnoreAsciiCase (s t : List Char) : Bool :=
  s.map toAsciiLowercase == t.map toAsciiLowercase

/-- `std::num::IntErrorKind`, the kinds an unsigned parser returns. -/
inductive ParseIntError where
  | empty
  | invalidDigit
  | posOverflow
deriving DecidableEq, Repr

/-- The `Display` text. -/
def ParseIntError.display : ParseIntError → String
  | .empty => "cannot parse integer from empty string"
  | .invalidDigit => "invalid digit found in string"
  | .posOverflow => "number too large to fit in target type"

/-- `c.to_digit(radix)` -/
def toDigit (radix : Nat) (c : Char) : Option Nat :=
  let digit :=
    if '0' ≤ c ∧ c ≤ '9' then some (c.toNat - '0'.toNat)
    else if 'a' ≤ c ∧ c ≤ 'z' then some (c.toNat - 'a'.toNat + 10)
    else if 'A' ≤ c ∧ c ≤ 'Z' then some (c.toNat - 'A'.toNat + 10)
    else none
  digit.filter (· < radix)

def parseDigits (radix : Nat) : Nat → List Char → Except ParseIntError Nat
  | result, [] => .ok result
  | result, c :: s =>
    match toDigit radix c with
    | none => .error .invalidDigit
    | some digit =>
      if result * radix + digit ≤ usizeMax then parseDigits radix (result * radix + digit) s
      else .error .posOverflow

/-- `usize::from_str_radix(s, radix)` -/
def fromStrRadix (s : List Char) (radix : Nat) : Except ParseIntError Nat :=
  match s with
  | [] => .error .empty
  | ['+'] => .error .invalidDigit
  | '+' :: s => parseDigits radix 0 s
  | s => parseDigits radix 0 s

/-- `s.parse::<usize>()` -/
def parseUsize (s : List Char) : Except ParseIntError Nat := fromStrRadix s 10

theorem splitCrlf_ne_nil (s : List Char) : splitCrlf s ≠ [] := by
  induction s using splitCrlf.induct with
  | case1 =>
    rw [splitCrlf]
    exact List.cons_ne_nil _ _
  | case2 c s hne ih =>
    rw [splitCrlf.eq_2 _ _ hne]
    intro h
    exact ih (List.modifyHead_eq_nil_iff.1 h)
  | case3 => exact List.cons_ne_nil _ _

/-- A line end cuts the string, whatever stands around it. -/
theorem splitCrlf_append (s t : List Char) :
    splitCrlf (s ++ '\r' :: '\n' :: t) = splitCrlf s ++ splitCrlf t := by
  induction s using splitCrlf.induct with
  | case1 s ih =>
    rw [List.cons_append, List.cons_append, splitCrlf, splitCrlf, ih, List.cons_append]
  | case2 c s hne ih =>
    have hne' : ∀ u, c = '\r' → s ++ '\r' :: '\n' :: t = '\n' :: u → False := by
      intro u hc hs
      cases s with
      | nil => cases hs
      | cons d s =>
        cases hs
        exact hne s hc rfl
    rw [List.cons_append, splitCrlf.eq_2 _ _ hne', splitCrlf.eq_2 _ _ hne, ih]
    cases h : splitCrlf s with
    | nil => exact absurd h (splitCrlf_ne_nil s)
    | cons line lines => rfl
  | case3 => rfl

theorem splitCrlf_of_not_mem (h : '\r' ∉ s) : splitCrlf s = [s] := by
  induction s with
  | nil => rfl
  | cons c s ih =>
    have hne : ∀ t, c = '\r' → s = '\n' :: t → False :=
      fun _ hc _ => h (hc ▸ List.mem_cons_self)
    rw [splitCrlf.eq_2 _ _ hne, ih fun hs => h (List.mem_cons_of_mem _ hs)]
    rfl

theorem prefix_of_head_nil (h : (splitCrlf s).head? = some []) :
    "\r\n".toList <+: s ++ "\r\n".toList := by
  induction s using splitCrlf.induct with
  | case1 s ih => exact List.prefix_append _ _
  | case2 c s hne ih =>
    rw [splitCrlf.eq_2 _ _ hne] at h
    cases hs : splitCrlf s with
    | nil => exact absurd hs (splitCrlf_ne_nil s)
    | cons line lines =>
      rw [hs] at h
      cases h
  | case3 => exact List.prefix_rfl

/-- A line that is empty and not the first stands behind a line end. -/
theorem exists_blank_of_mem_tail (h : [] ∈ (splitCrlf s).tail) :
    ∃ a, a ++ "\r\n\r\n".toList <+: s ++ "\r\n".toList := by
  induction s using splitCrlf.induct with
  | case1 s ih =>
    rw [splitCrlf, List.tail_cons] at h
    cases hs : splitCrlf s with
    | nil => exact absurd hs (splitCrlf_ne_nil s)
    | cons line lines =>
      rw [hs] at h
      rcases List.mem_cons.1 h with hline | hmem
      · have hhead : (splitCrlf s).head? = some [] := by rw [hs, ← hline, List.head?_cons]
        obtain ⟨c, hc⟩ := prefix_of_head_nil hhead
        exact ⟨[], c, congrArg ("\r\n".toList ++ ·) hc⟩
      · rw [hs, List.tail_cons] at ih
        obtain ⟨a, c, hc⟩ := ih hmem
        exact ⟨'\r' :: '\n' :: a, c, congrArg ("\r\n".toList ++ ·) hc⟩
  | case2 c s hne ih =>
    rw [splitCrlf.eq_2 _ _ hne] at h
    cases hs : splitCrlf s with
    | nil => exact absurd hs (splitCrlf_ne_nil s)
    | cons line lines =>
      rw [hs] at h ih
      obtain ⟨a, t, ht⟩ := ih h
      exact ⟨c :: a, t, congrArg (c :: ·) ht⟩
  | case3 => cases h

theorem splitOnce_append {c : Char} (h : c ∉ s) (t : List Char) :
    splitOnce c (s ++ c :: t) = some (s, t) := by
  induction s with
  | nil => exact if_pos rfl
  | cons d s ih =>
    have hd : d ≠ c := fun hd => h (hd ▸ List.mem_cons_self)
    rw [List.cons_append, splitOnce, if_neg hd, ih fun hs => h (List.mem_cons_of_mem _ hs)]
    rfl

theorem trim_space (s : List Char) : trim (' ' :: s) = trim s := rfl

theorem trim_of_forall (h : ∀ c ∈ s, isWhitespace c = false) : trim s = s := by
  have hleft : s.dropWhile isWhitespace = s := List.dropWhile_eq_self_iff.2 fun hlen => by
    rw [h _ (List.getElem_mem hlen)]
    exact Bool.false_ne_true
  rw [trim, hleft, List.rdropWhile_eq_self_iff]
  intro hne
  rw [h _ (List.getLast_mem hne)]
  exact Bool.false_ne_true

/-- A word is a non-empty string without white space. -/
def IsWord (s : List Char) : Prop := s ≠ [] ∧ ∀ c ∈ s, isWhitespace c = false

theorem IsWord.splitWhitespace (h : IsWord s) : splitWhitespace s = [s] := by
  rw [Str.splitWhitespace, List.splitOnP_eq_singleton h.2]
  exact List.filter_eq_self.2 fun t ht => by simpa [List.mem_singleton.1 ht] using h.1

theorem IsWord.splitWhitespace_space (h : IsWord s) (t : List Char) :
    Str.splitWhitespace (s ++ ' ' :: t) = s :: Str.splitWhitespace t := by
  rw [Str.splitWhitespace, List.splitOnP_append_cons_of_forall_mem h.2 ' ' rfl,
    List.filter_cons_of_pos (by simpa using h.1), Str.splitWhitespace]

/-! ## Numerals -/

/-- The number that the digits spell. -/
def numeral (radix : Nat) (s : List Char) : Option Nat :=
  s.foldlM (fun n c => (toDigit radix c).map (n * radix + ·)) 0

theorem le_of_foldlM_digits {radix : Nat} (hradix : 0 < radix) {s : List Char}
    (h : s.foldlM (fun n c => (toDigit radix c).map (n * radix + ·)) n = some m) : n ≤ m := by
  induction s generalizing n with
  | nil => exact Nat.le_of_eq (Option.some.inj h)
  | cons c s ih =>
    rw [List.foldlM_cons] at h
    obtain ⟨n', hn', h⟩ := Option.bind_eq_some_iff.1 h
    obtain ⟨d, -, rfl⟩ := Option.map_eq_some_iff.1 hn'
    calc n ≤ n * radix := Nat.le_mul_of_pos_right n hradix
      _ ≤ n * radix + d := Nat.le_add_right _ _
      _ ≤ m := ih h

theorem parseDigits_of_foldlM {radix : Nat} (hradix : 0 < radix) {s : List Char}
    (h : s.foldlM (fun n c => (toDigit radix c).map (n * radix + ·)) n = some m)
    (hmax : m ≤ usizeMax) : parseDigits radix n s = .ok m := by
  induction s generalizing n with
  | nil => exact congrArg _ (Option.some.inj h)
  | cons c s ih =>
    rw [List.foldlM_cons] at h
    obtain ⟨n', hn', h⟩ := Option.bind_eq_some_iff.1 h
    obtain ⟨d, hd, rfl⟩ := Option.map_eq_some_iff.1 hn'
    rw [parseDigits, hd]
    simp only
    rw [if_pos (Nat.le_trans (le_of_foldlM_digits hradix h) hmax), ih h]

/-- The parser reads a numeral back, however it is written. -/
theorem fromStrRadix_of_numeral {radix : Nat} (hradix : 0 < radix) {s : List Char} (hne : s ≠ [])
    (h : numeral radix s = some n) (hmax : n ≤ usizeMax) : fromStrRadix s radix = .ok n := by
  have hparse := parseDigits_of_foldlM hradix h hmax
  have hplus (t : List Char) : s ≠ '+' :: t := by
    rintro rfl
    have hdigit : toDigit radix '+' = none := rfl
    rw [numeral, List.foldlM_cons, hdigit] at h
    cases h
  unfold fromStrRadix
  split
  next => exact absurd rfl hne
  next => exact absurd rfl (hplus [])
  next => exact absurd rfl (hplus _)
  next => exact hparse

theorem foldlM_of_parseDigits {radix : Nat} {s : List Char} (h : parseDigits radix n s = .ok m)
    (hmax : n ≤ usizeMax) :
    s.foldlM (fun n c => (toDigit radix c).map (n * radix + ·)) n = some m ∧ m ≤ usizeMax := by
  induction s generalizing n with
  | nil =>
    cases h
    exact ⟨rfl, hmax⟩
  | cons c s ih =>
    rw [parseDigits] at h
    cases hd : toDigit radix c with
    | none =>
      rw [hd] at h
      cases h
    | some d =>
      rw [hd] at h
      dsimp only at h
      split at h
      case isTrue hle =>
        rw [List.foldlM_cons, hd]
        exact ih h hle
      case isFalse => cases h

/-- A non-empty string of digits that denotes `n`, which fits in `usize`. -/
structure IsNumeral (radix : Nat) (s : List Char) (n : Nat) : Prop where
  nonempty : s ≠ []
  denotes : numeral radix s = some n
  fits : n ≤ usizeMax

/-- A sign is no digit. -/
theorem not_isNumeral_plus (radix : Nat) (s : List Char) (n : Nat) :
    ¬IsNumeral radix ('+' :: s) n := by
  intro h
  have hdigit : toDigit radix '+' = none := rfl
  have hdenotes := h.denotes
  rw [numeral, List.foldlM_cons, hdigit] at hdenotes
  cases hdenotes

/-- The parser reads the numerals, and the numerals behind a plus sign. -/
theorem fromStrRadix_eq_ok_iff {radix : Nat} (hradix : 0 < radix) {s : List Char} :
    fromStrRadix s radix = .ok n ↔
      IsNumeral radix s n ∨ ∃ t, s = '+' :: t ∧ IsNumeral radix t n := by
  have hparse {t : List Char} (hne : t ≠ []) (h : parseDigits radix 0 t = .ok n) :
      IsNumeral radix t n :=
    have ⟨hdenotes, hfits⟩ := foldlM_of_parseDigits h (Nat.zero_le _)
    ⟨hne, hdenotes, hfits⟩
  constructor
  · intro h
    unfold fromStrRadix at h
    split at h
    next => cases h
    next => cases h
    next t hne =>
      refine .inr ⟨t, rfl, hparse (fun ht => hne ?_) h⟩
      rw [ht]
    next hne _ _ => exact .inl (hparse hne h)
  · rintro (⟨hne, hdenotes, hfits⟩ | ⟨t, rfl, hne, hdenotes, hfits⟩)
    · exact fromStrRadix_of_numeral hradix hne hdenotes hfits
    · rw [fromStrRadix.eq_3 _ _ hne]
      exact parseDigits_of_foldlM hradix hdenotes hfits

theorem toDigit_digitChar : ∀ d : Fin 10, toDigit 10 (Nat.digitChar d) = some d := by
  decide

theorem numeral_toDigits (n : Nat) : numeral 10 (Nat.toDigits 10 n) = some n := by
  induction n using Nat.strongRecOn with
  | ind n ih =>
    by_cases h : n < 10
    · rw [Nat.toDigits_of_lt_base h, numeral, List.foldlM_cons, toDigit_digitChar ⟨n, h⟩]
      simp
    · have hd : n % 10 < 10 := Nat.mod_lt _ (by decide)
      rw [Nat.toDigits_of_base_le (by decide) (Nat.le_of_not_lt h), numeral, List.foldlM_append]
      have := ih (n / 10) (by omega)
      rw [numeral] at this
      rw [this]
      simp [toDigit_digitChar ⟨n % 10, hd⟩]
      omega

/-- The decimal text of a number parses to the number. -/
theorem parseUsize_repr (hmax : n ≤ usizeMax) : parseUsize n.repr.toList = .ok n := by
  rw [Nat.toList_repr]
  exact fromStrRadix_of_numeral (by decide) Nat.toDigits_ne_nil (numeral_toDigits n) hmax

/-- The digits of any radix are ASCII letters and digits. -/
theorem toDigit_eq_some {radix : Nat} {c : Char} (h : toDigit radix c = some d) :
    (48 ≤ c.toNat ∧ c.toNat ≤ 57) ∨ (97 ≤ c.toNat ∧ c.toNat ≤ 122) ∨
      (65 ≤ c.toNat ∧ c.toNat ≤ 90) := by
  obtain ⟨hdigit, -⟩ := Option.filter_eq_some_iff.1 h
  split_ifs at hdigit with h₁ h₂ h₃
  · exact .inl h₁
  · exact .inr (.inl h₂)
  · exact .inr (.inr h₃)

theorem isWhitespace_digit {radix : Nat} {c : Char} (h : toDigit radix c = some d) :
    isWhitespace c = false := by
  have := toDigit_eq_some h
  simp [isWhitespace]
  omega

theorem mem_numeral {s : List Char} (h : numeral radix s = some n) (hc : c ∈ s) :
    ∃ d, toDigit radix c = some d := by
  rw [numeral] at h
  generalize 0 = m at h
  induction s generalizing m with
  | nil => cases hc
  | cons c' s ih =>
    rw [List.foldlM_cons] at h
    obtain ⟨m', hm', h⟩ := Option.bind_eq_some_iff.1 h
    obtain ⟨d, hd, rfl⟩ := Option.map_eq_some_iff.1 hm'
    rcases List.mem_cons.1 hc with rfl | hc
    · exact ⟨d, hd⟩
    · exact ih hc _ h

theorem trim_numeral {s : List Char} (h : numeral radix s = some n) : trim s = s :=
  trim_of_forall fun _ hc => (mem_numeral h hc).elim fun _ hd => isWhitespace_digit hd

end RsNetty.Str

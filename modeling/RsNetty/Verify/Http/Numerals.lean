import RsNetty.Codec.Http

/-!
# The numerals of HTTP

`Content-Length` and the chunk size are strings of digits. They are read by the integer parsers of
the standard library, which also take a plus sign in front: `numerals_iff` says that this is the
only difference.
-/

namespace RsNetty.Http
open Str

/-- The values of the Content-Length fields, without surrounding white space. -/
def contentLengthValues (headers : Headers) : List (List Char) :=
  (headers.filter fun field => eqIgnoreAsciiCase field.1 "Content-Length".toList).map (trim ·.2)

@[simp] theorem contentLengthValues_nil : contentLengthValues [] = [] := rfl

theorem contentLengthValues_cons (name value : List Char) (headers : Headers) :
    contentLengthValues ((name, value) :: headers) =
      if eqIgnoreAsciiCase name "Content-Length".toList then
        trim value :: contentLengthValues headers
      else contentLengthValues headers := by
  rw [contentLengthValues, List.filter_cons]
  split <;> rfl

/-- Behind the first Content-Length field no other is accepted. -/
theorem contentLengthLoop_some (found : Nat) (headers : Headers) :
    contentLengthLoop (some found) headers = .ok r ↔
      contentLengthValues headers = [] ∧ r = some found := by
  induction headers with
  | nil =>
    rw [contentLengthLoop, Except.ok.injEq]
    exact ⟨fun h => ⟨rfl, h.symm⟩, fun h => h.2.symm⟩
  | cons field headers ih =>
    obtain ⟨name, value⟩ := field
    rw [contentLengthLoop, contentLengthValues_cons]
    split
    case isTrue =>
      constructor
      · intro h
        split at h <;> cases h
      · rintro ⟨h, -⟩
        cases h
    case isFalse => exact ih

/-- The Content-Length is what the parser reads of the only field. -/
theorem contentLength_eq_some {headers : Headers} :
    contentLength headers = .ok (some n) ↔
      ∃ s, contentLengthValues headers = [s] ∧ parseUsize s = .ok n := by
  rw [contentLength]
  induction headers with
  | nil =>
    rw [contentLengthLoop, contentLengthValues_nil]
    constructor
    · intro h
      cases h
    · rintro ⟨s, h, -⟩
      cases h
  | cons field headers ih =>
    obtain ⟨name, value⟩ := field
    rw [contentLengthLoop, contentLengthValues_cons]
    split
    case isTrue =>
      cases hparse : parseUsize (trim value) with
      | error err =>
        constructor
        · intro h
          cases h
        · rintro ⟨s, h, hs⟩
          obtain ⟨rfl, -⟩ := List.cons.inj h
          cases hparse.symm.trans hs
      | ok parsed =>
        change contentLengthLoop (some parsed) headers = _ ↔ _
        rw [contentLengthLoop_some]
        constructor
        · rintro ⟨hnil, hn⟩
          cases hn
          exact ⟨_, congrArg _ hnil, hparse⟩
        · rintro ⟨s, h, hs⟩
          obtain ⟨rfl, hnil⟩ := List.cons.inj h
          cases hparse.symm.trans hs
          exact ⟨hnil, rfl⟩
    case isFalse => exact ih

/-- The part of a chunk-size line in front of the extensions, without surrounding white space. -/
def chunkSizePart (line : List Char) : List Char := trim ((line.splitOn ';').headD [])

theorem parseChunkSize_eq_ok {line : List Char} :
    parseChunkSize line = .ok n ↔ fromStrRadix (chunkSizePart line) 16 = .ok n := by
  unfold parseChunkSize
  change (failIf (chunkSizePart line = []) _ >>= _) = _ ↔ _
  by_cases hnil : chunkSizePart line = []
  · rw [failIf, if_pos hnil, hnil]
    constructor <;> intro h <;> cases h
  · rw [failIf_eq_ok.2 hnil]
    cases hread : fromStrRadix (chunkSizePart line) 16 with
    | error err =>
      rw [chunkSizePart] at hread
      rw [Except.ok_bind, hread]
      constructor <;> intro h <;> cases h
    | ok size =>
      rw [chunkSizePart] at hread
      rw [Except.ok_bind, hread]
      change (Except.ok size : Result Nat) = .ok n ↔ _
      rw [Except.ok.injEq, Except.ok.injEq]

/-- Exactly one Content-Length field is a numeral, and the chunk size is one. -/
theorem numerals_iff (headers : Headers) (line : List Char) :
    ((∀ n, contentLength headers = .ok (some n) ↔
        ∃ s, contentLengthValues headers = [s] ∧ IsNumeral 10 s n) ↔
      ¬∃ s n, contentLengthValues headers = ['+' :: s] ∧ IsNumeral 10 s n) ∧
    ((∀ n, parseChunkSize line = .ok n ↔ IsNumeral 16 (chunkSizePart line) n) ↔
      ¬∃ s n, chunkSizePart line = '+' :: s ∧ IsNumeral 16 s n) := by
  constructor
  · constructor
    · rintro h ⟨s, n, hvalues, hs⟩
      have hread : contentLength headers = .ok (some n) :=
        contentLength_eq_some.2 ⟨_, hvalues,
          (fromStrRadix_eq_ok_iff (by decide)).2 (.inr ⟨s, rfl, hs⟩)⟩
      obtain ⟨t, ht, hnumeral⟩ := (h n).1 hread
      obtain ⟨rfl, -⟩ := List.cons.inj (hvalues.symm.trans ht)
      exact not_isNumeral_plus _ _ _ hnumeral
    · intro h n
      rw [contentLength_eq_some]
      refine exists_congr fun s => and_congr_right fun hvalues => ?_
      rw [parseUsize, fromStrRadix_eq_ok_iff (by decide), or_iff_left]
      rintro ⟨t, rfl, ht⟩
      exact h ⟨t, n, hvalues, ht⟩
  · constructor
    · rintro h ⟨s, n, hpart, hs⟩
      have hread : parseChunkSize line = .ok n :=
        parseChunkSize_eq_ok.2 ((fromStrRadix_eq_ok_iff (by decide)).2 (.inr ⟨s, hpart, hs⟩))
      have hnumeral := (h n).1 hread
      rw [hpart] at hnumeral
      exact not_isNumeral_plus _ _ _ hnumeral
    · intro h n
      rw [parseChunkSize_eq_ok, fromStrRadix_eq_ok_iff (by decide), or_iff_left]
      rintro ⟨s, hpart, hs⟩
      exact h ⟨s, n, hpart, hs⟩

/-- A Content-Length of `+5` is read as five, and so is a chunk size. -/
theorem not_numerals :
    (¬∀ headers n, contentLength headers = .ok (some n) ↔
      ∃ s, contentLengthValues headers = [s] ∧ IsNumeral 10 s n) ∧
    ¬∀ line n, parseChunkSize line = .ok n ↔ IsNumeral 16 (chunkSizePart line) n := by
  constructor
  · intro h
    have hread : contentLength [("Content-Length".toList, "+5".toList)] = .ok (some 5) := by
      decide
    obtain ⟨s, hvalues, hs⟩ := (h _ 5).1 hread
    have hvalue : contentLengthValues [("Content-Length".toList, "+5".toList)] = ["+5".toList] := by
      decide
    obtain ⟨rfl, -⟩ := List.cons.inj (hvalue.symm.trans hvalues)
    exact not_isNumeral_plus _ _ _ hs
  · intro h
    have hread : parseChunkSize "+5".toList = .ok 5 := by decide
    have hpart : chunkSizePart "+5".toList = "+5".toList := by decide
    have hs := (h _ 5).1 hread
    rw [hpart] at hs
    exact not_isNumeral_plus _ _ _ hs

end RsNetty.Http

import RsNetty.Codec.Line
import RsNetty.Theory.Segmentation

/-!
# Lines

`LineCodec` cuts a stream at its newlines, however the stream arrives: a part of a line is over the
limit only if the line is. What it writes is read back unless a string holds a newline itself or
ends in a carriage return.
-/

namespace RsNetty
open EStateM Segmentation

/-- Too large frames are not told apart by how much of them was there. -/
def Fault.SameKind : Fault → Fault → Prop
  | .err (.frameTooLarge _ max), .err (.frameTooLarge _ max') => max = max'
  | e, e' => e = e'

namespace LineCodec

variable {self : LineCodec} {line r : Bytes}

/-! ## One call -/

theorem findIdx?_newline (h : 0x0a ∉ line) (r : Bytes) :
    (line ++ 0x0a :: r).findIdx? (· = 0x0a) = some line.length := by
  have hline : line.findIdx? (· = (0x0a : UInt8)) = none := by
    rw [List.findIdx?_eq_none_iff]
    intro b hb
    exact decide_eq_false fun hb' => h (hb' ▸ hb)
  rw [List.findIdx?_append, hline]
  simp [List.findIdx?_cons]

theorem findIdx?_noNewline (h : 0x0a ∉ line) : line.findIdx? (· = 0x0a) = none := by
  rw [List.findIdx?_eq_none_iff]
  intro b hb
  exact decide_eq_false fun hb' => h (hb' ▸ hb)

theorem decode_tail (h : 0x0a ∉ line) (hlen : line.length ≤ self.maxLineLen) :
    self.decode line = .ok none line := by
  rw [decode, get_bind, findIdx?_noNewline h]
  dsimp only
  rw [failIf_eq_ok.2 (Nat.not_lt.2 hlen)]
  rfl

theorem decode_longTail (h : 0x0a ∉ line) (hlen : self.maxLineLen < line.length) :
    self.decode line = .error (.err (.frameTooLarge line.length self.maxLineLen)) line := by
  rw [decode, get_bind, findIdx?_noNewline h]
  dsimp only
  rw [failIf, if_pos hlen]
  rfl

theorem decode_longLine (h : 0x0a ∉ line) (hlen : self.maxLineLen < line.length) (r : Bytes) :
    self.decode (line ++ 0x0a :: r) =
      .error (.err (.frameTooLarge line.length self.maxLineLen)) (line ++ 0x0a :: r) := by
  rw [decode, get_bind, findIdx?_newline h]
  dsimp only
  rw [failIf, if_pos hlen]
  rfl

/-- A line that is not too long is taken off the buffer before it is looked at. -/
theorem decode_shortLine (h : 0x0a ∉ line) (hlen : line.length ≤ self.maxLineLen) (r : Bytes) :
    self.decode (line ++ 0x0a :: r) =
      match fromUtf8 (stripCr line) with
      | .ok s => .ok (some s) r
      | .error err => .error (.decode err.display) r := by
  have hsplit : line.length + 1 ≤ (line ++ 0x0a :: r).length := by
    rw [List.length_append, List.length_cons]
    omega
  have htake : (line ++ 0x0a :: r).take (line.length + 1) = line ++ [0x0a] := by
    rw [List.append_cons, List.take_left' (by simp)]
  have hdrop : (line ++ 0x0a :: r).drop (line.length + 1) = r := by
    rw [List.append_cons, List.drop_left' (by simp)]
  rw [decode, get_bind, findIdx?_newline h]
  dsimp only
  rw [failIf_eq_ok.2 (Nat.not_lt.2 hlen), Exec.call_ok, bind_of_ok (splitTo_ok hsplit), htake, hdrop,
    List.take_left' rfl]
  cases fromUtf8 (stripCr line) <;> rfl

theorem decode_line (h : 0x0a ∉ line) (hlen : line.length ≤ self.maxLineLen)
    (hs : fromUtf8 (stripCr line) = .ok s) (r : Bytes) :
    self.decode (line ++ 0x0a :: r) = .ok (some s) r := by
  rw [decode_shortLine h hlen, hs]

theorem decode_badLine (h : 0x0a ∉ line) (hlen : line.length ≤ self.maxLineLen)
    (herr : fromUtf8 (stripCr line) = .error err) (r : Bytes) :
    self.decode (line ++ 0x0a :: r) = .error (.decode err.display) r := by
  rw [decode_shortLine h hlen, herr]

/-- A buffer holds a part of a line, or a line and what follows it. -/
theorem line_cases (b : Bytes) : 0x0a ∉ b ∨ ∃ line r, b = line ++ 0x0a :: r ∧ 0x0a ∉ line := by
  by_cases h : 0x0a ∈ b
  · obtain ⟨line, r, hb, hline⟩ := List.eq_append_cons_of_mem h
    exact .inr ⟨line, r, hb, hline⟩
  · exact .inl h

/-- A part of a line is over the limit only if the line is. -/
theorem decode_stable (self : LineCodec) (b r : Bytes) :
    StableCall self.decode Fault.SameKind b r := by
  rcases line_cases b with h | ⟨line, rest, rfl, h⟩
  · by_cases hlen : b.length ≤ self.maxLineLen
    · exact .none (decode_tail h hlen)
    · have hlong := Nat.lt_of_not_le hlen
      rcases line_cases r with hr | ⟨line, rest, rfl, hline⟩
      · have hbr : 0x0a ∉ b ++ r := fun hmem => (List.mem_append.1 hmem).elim h hr
        have hlong' : self.maxLineLen < (b ++ r).length := by
          rw [List.length_append]
          omega
        exact .error (decode_longTail h hlong) (decode_longTail hbr hlong') rfl
      · have hbr : 0x0a ∉ b ++ line := fun hmem => (List.mem_append.1 hmem).elim h hline
        have hlong' : self.maxLineLen < (b ++ line).length := by
          rw [List.length_append]
          omega
        have herror := decode_longLine hbr hlong' rest
        rw [List.append_assoc] at herror
        exact .error (decode_longTail h hlong) herror rfl
  · have happend : line ++ 0x0a :: rest ++ r = line ++ 0x0a :: (rest ++ r) := by
      rw [List.append_assoc, List.cons_append]
    by_cases hlen : line.length ≤ self.maxLineLen
    · cases hs : fromUtf8 (stripCr line) with
      | ok s =>
        have hlong := decode_line h hlen hs (rest ++ r)
        rw [← happend] at hlong
        refine .item (decode_line h hlen hs rest) ?_ hlong
        rw [List.length_append, List.length_cons]
        omega
      | error err =>
        have hlong := decode_badLine h hlen hs (rest ++ r)
        rw [← happend] at hlong
        exact .error (decode_badLine h hlen hs rest) hlong rfl
    · have hlen := Nat.lt_of_not_le hlen
      have hlong := decode_longLine h hlen (rest ++ r)
      rw [← happend] at hlong
      exact .error (decode_longLine h hlen rest) hlong rfl

/-! ## A stream -/

/-- A line without its carriage return. -/
def contents (line : Bytes) : Bytes := if [0x0d] <:+ line then line.dropLast else line

/-- What is read from the lines of a stream, the last of which no newline ends: the lines up to the
first that is too long or not UTF-8. -/
def readLines (self : LineCodec) : List Bytes → List String × Ending Fault LineCodec UInt8
  | [] => ([], .waiting self [])
  | [tail] =>
    if self.maxLineLen < tail.length then
      ([], .failed (.err (.frameTooLarge tail.length self.maxLineLen)))
    else ([], .waiting self tail)
  | line :: lines =>
    if self.maxLineLen < line.length then
      ([], .failed (.err (.frameTooLarge line.length self.maxLineLen)))
    else
      match fromUtf8 (contents line) with
      | .error err => ([], .failed (.decode err.display))
      | .ok s => (s :: (self.readLines lines).1, (self.readLines lines).2)

theorem stripCr_eq (line : Bytes) : stripCr line = contents line := by
  have hlast : line.getLast? = some 0x0d ↔ [0x0d] <:+ line := by
    rw [List.getLast?_eq_some_iff]
    exact ⟨fun ⟨l, h⟩ => ⟨l, h.symm⟩, fun ⟨l, h⟩ => ⟨l, h.symm⟩⟩
  rw [stripCr, contents, List.dropLast_eq_take]
  exact if_congr hlast rfl rfl

theorem beq_newline (h : 0x0a ∉ line) : ∀ b ∈ line, (b == (0x0a : UInt8)) = false := by
  intro b hb
  rw [beq_eq_false_iff_ne]
  rintro rfl
  exact h hb

theorem splitOn_tail (h : 0x0a ∉ line) : line.splitOn 0x0a = [line] :=
  List.splitOnP_eq_singleton (beq_newline h)

theorem splitOn_line (h : 0x0a ∉ line) (r : Bytes) :
    (line ++ 0x0a :: r).splitOn 0x0a = line :: r.splitOn 0x0a :=
  List.splitOnP_append_cons_of_forall_mem (beq_newline h) 0x0a rfl r

theorem readLines_cons (self : LineCodec) (line r : Bytes) :
    self.readLines (line :: r.splitOn 0x0a) =
      if self.maxLineLen < line.length then
        ([], .failed (.err (.frameTooLarge line.length self.maxLineLen)))
      else
        match fromUtf8 (contents line) with
        | .error err => ([], .failed (.decode err.display))
        | .ok s =>
          (s :: (self.readLines (r.splitOn 0x0a)).1, (self.readLines (r.splitOn 0x0a)).2) := by
  cases h : r.splitOn 0x0a with
  | nil => exact absurd h (List.splitOn_ne_nil _ _)
  | cons line' lines => rfl

theorem drain_lines (self : LineCodec) (b : Bytes) :
    drain (stateless decode) self b = self.readLines (b.splitOn 0x0a) := by
  rcases line_cases b with h | ⟨line, r, rfl, h⟩
  · rw [splitOn_tail h, readLines]
    split
    next hlen => exact drain_error (stateless_error (decode_longTail h hlen))
    next hlen => exact drain_none (stateless_ok (decode_tail h (Nat.le_of_not_lt hlen)))
  · have hlt : r.length < (line ++ 0x0a :: r).length := by
      rw [List.length_append, List.length_cons]
      omega
    rw [splitOn_line h, readLines_cons]
    split
    next hlen => exact drain_error (stateless_error (decode_longLine h hlen r))
    next hlen =>
      have hlen := Nat.le_of_not_lt hlen
      cases hs : fromUtf8 (contents line) with
      | error err =>
        exact drain_error (stateless_error (decode_badLine h hlen (stripCr_eq line ▸ hs) r))
      | ok s =>
        rw [drain_item (stateless_ok (decode_line h hlen (stripCr_eq line ▸ hs) r)) hlt,
          drain_lines self r]
termination_by b.length

theorem feed_drain (self : LineCodec) (chunks : List Bytes) :
    Sim Fault.SameKind (feed (stateless decode) self [] chunks)
      (drain (stateless decode) self chunks.flatten) := by
  have hnil : stateless decode (self, []) = .ok none (self, []) :=
    stateless_ok (decode_tail List.not_mem_nil (Nat.zero_le _))
  have hsim := feed_sim hnil fun s b cs (_ : FeedCalls (stateless decode) self [] chunks s b cs) =>
    (decode_stable s b cs.flatten).stateless
  rwa [feed_single, List.nil_append] at hsim

/-- However a stream is cut, its lines are decoded in order, up to the first that is too long or
not UTF-8. -/
theorem feed_lines (self : LineCodec) (chunks : List Bytes) :
    Sim Fault.SameKind (feed (stateless decode) self [] chunks)
      (self.readLines (chunks.flatten.splitOn 0x0a)) := by
  rw [← drain_lines]
  exact self.feed_drain chunks

/-! ## Round trips -/

/-- A string that is a line of its own: it holds no newline and no carriage return at its end. -/
structure IsLine (s : String) : Prop where
  noNewline : '\n' ∉ s.toList
  noCr : s.toList.getLast? ≠ some '\r'

theorem newline_mem_asBytes {s : String} : 0x0a ∈ asBytes s ↔ '\n' ∈ s.toList := by
  have hnewline : String.utf8EncodeChar '\n' = [0x0a] := by decide
  rw [asBytes_eq_flatMap, List.mem_flatMap]
  constructor
  · rintro ⟨c, hc, hb⟩
    have hchar : c = '\n' := char_of_mem_utf8EncodeChar (by decide) hb
    exact hchar ▸ hc
  · exact fun h => ⟨'\n', h, hnewline ▸ List.mem_singleton_self _⟩

theorem cr_suffix_asBytes {s : String} :
    [0x0d] <:+ asBytes s ↔ s.toList.getLast? = some '\r' := by
  have hcr : String.utf8EncodeChar '\r' = [0x0d] := by decide
  rw [asBytes_eq_flatMap, List.getLast?_eq_some_iff]
  constructor
  · rintro ⟨bs, h⟩
    obtain ⟨cs, hcs, -⟩ := flatMap_utf8EncodeChar_concat (by decide) h.symm
    exact ⟨cs, hcs⟩
  · rintro ⟨cs, h⟩
    rw [h, List.flatMap_append, List.flatMap_singleton, hcr]
    exact List.suffix_append _ _

theorem encode_eq (self : LineCodec) (item : String) (dst : BytesMut) :
    self.encode item dst = .ok () (dst ++ (asBytes item ++ [0x0a])) :=
  (emits_extendFromSlice (asBytes item)).bind (emits_extendFromSlice [0x0a]) dst

theorem IsLine.decode (h : IsLine s) (hlen : (asBytes s).length ≤ self.maxLineLen) (r : Bytes) :
    self.decode (asBytes s ++ 0x0a :: r) = .ok (some s) r := by
  have hnewline : 0x0a ∉ asBytes s := newline_mem_asBytes.not.2 h.noNewline
  have hcr : ¬[0x0d] <:+ asBytes s := cr_suffix_asBytes.not.2 h.noCr
  refine decode_line hnewline hlen ?_ r
  rw [stripCr_eq, contents, if_neg hcr, fromUtf8_asBytes]

/-- What is read has lost its newline and its carriage return. -/
theorem isLine_of_decode (hlen : (asBytes s).length ≤ self.maxLineLen)
    (h : self.decode (asBytes s ++ 0x0a :: r) = .ok (some s) st) : IsLine s := by
  rcases line_cases (asBytes s) with hs | ⟨line, rest, hs, hline⟩
  · cases hread : fromUtf8 (stripCr (asBytes s)) with
    | error err => cases (decode_badLine hs hlen hread r).symm.trans h
    | ok s' =>
      obtain rfl : s' = s := by
        cases (decode_line hs hlen hread r).symm.trans h
        rfl
      refine ⟨newline_mem_asBytes.not.1 hs, fun hcr => ?_⟩
      have hsuffix : [0x0d] <:+ asBytes s' := cr_suffix_asBytes.2 hcr
      have hlength := congrArg List.length (fromUtf8_eq_ok.1 hread)
      have hle := hsuffix.length_le
      rw [stripCr_eq, contents, if_pos hsuffix, List.length_dropLast] at hlength
      rw [List.length_singleton] at hle
      omega
  · have hlength := congrArg List.length hs
    rw [List.length_append, List.length_cons] at hlength
    rw [hs, List.append_assoc, List.cons_append] at h
    have hlen' : line.length ≤ self.maxLineLen := by omega
    cases hread : fromUtf8 (stripCr line) with
    | error err => cases (decode_badLine hline hlen' hread _).symm.trans h
    | ok s' =>
      obtain rfl : s' = s := by
        cases (decode_line hline hlen' hread _).symm.trans h
        rfl
      have hstrip := congrArg List.length (fromUtf8_eq_ok.1 hread)
      have hle : (contents line).length ≤ line.length := by
        unfold contents
        split
        · rw [List.length_dropLast]
          omega
        · exact Nat.le_refl _
      rw [stripCr_eq] at hstrip
      omega

theorem decode_encode_iff (hlen : (asBytes s).length ≤ self.maxLineLen) (r : Bytes) :
    self.decode (asBytes s ++ 0x0a :: r) = .ok (some s) r ↔ IsLine s :=
  ⟨isLine_of_decode hlen, fun h => h.decode hlen r⟩

/-- The items of a stream, one after the other. -/
def encodeAll (self : LineCodec) : List String → Exec BytesMut Unit
  | [] => return ()
  | item :: items => do
    self.encode item
    self.encodeAll items

theorem encodeAll_eq (self : LineCodec) (items : List String) (dst : BytesMut) :
    self.encodeAll items dst =
      .ok () (dst ++ (items.map fun item => asBytes item ++ [0x0a]).flatten) := by
  induction items generalizing dst with
  | nil => rw [List.map_nil, List.flatten_nil, List.append_nil]; rfl
  | cons item items ih =>
    rw [encodeAll, bind_of_ok (self.encode_eq item dst), ih, List.map_cons, List.flatten_cons,
      List.append_assoc]

theorem drain_encodeAll_iff {items : List String}
    (hlen : ∀ s ∈ items, (asBytes s).length ≤ self.maxLineLen) :
    drain (stateless decode) self (items.map fun item => asBytes item ++ [0x0a]).flatten =
      (items, .waiting self []) ↔ ∀ s ∈ items, IsLine s := by
  have hnil : stateless decode (self, []) = .ok none (self, []) :=
    stateless_ok (decode_tail List.not_mem_nil (Nat.zero_le _))
  constructor
  · intro h
    induction items with
    | nil => exact nofun
    | cons item items ih =>
      obtain ⟨hitem, hitems⟩ := List.forall_mem_cons.1 hlen
      rw [List.map_cons, List.flatten_cons, List.append_assoc, List.singleton_append] at h
      generalize hr : (items.map fun item => asBytes item ++ [0x0a]).flatten = r at h ih
      cases hd : self.decode (asBytes item ++ 0x0a :: r) with
      | error e st =>
        rw [drain_error (stateless_error hd)] at h
        cases h
      | ok o st =>
        cases o with
        | none =>
          rw [drain_none (stateless_ok hd)] at h
          cases h
        | some item' =>
          have hlt := (decode_stable self _ []).length_lt hd
          rw [drain_item (stateless_ok hd) hlt] at h
          obtain rfl : item' = item := by
            injection h with hitems
            injection hitems
          have hline := isLine_of_decode hitem hd
          cases hd.symm.trans (hline.decode hitem r)
          refine List.forall_mem_cons.2 ⟨hline, ih hitems ?_⟩
          injection h with hrest hending
          injection hrest with _ hrest
          exact Prod.ext hrest hending
  · intro h
    refine drain_words hnil fun item hitem => ⟨by simp, fun r => stateless_ok ?_⟩
    rw [List.append_assoc, List.singleton_append]
    exact (h item hitem).decode (hlen item hitem) r

/-- The encoder takes every string, and the strings that are written come back as they are if and
only if each of them is a line of its own: one by one, whatever follows, and as the items of a
stream, however it is cut. -/
theorem encode_decode_iff (self : LineCodec) :
    (∀ (s : String) (dst : BytesMut),
      self.encode s dst = .ok () (dst ++ (asBytes s ++ [0x0a]))) ∧
    (∀ (s : String) (r w : Bytes), (asBytes s).length ≤ self.maxLineLen →
      self.encode s [] = .ok () w → (self.decode (w ++ r) = .ok (some s) r ↔ IsLine s)) ∧
    ∀ (items : List String) (chunks : List Bytes),
      (∀ s ∈ items, (asBytes s).length ≤ self.maxLineLen) →
      self.encodeAll items [] = .ok () chunks.flatten →
      (feed (stateless decode) self [] chunks = (items, .waiting self []) ↔
        ∀ s ∈ items, IsLine s) := by
  refine ⟨self.encode_eq, ?_, ?_⟩
  · intro s r w hlen hencode
    cases (self.encode_eq s []).symm.trans hencode
    rw [List.nil_append, List.append_assoc, List.singleton_append]
    exact decode_encode_iff hlen r
  · intro items chunks hlen hencode
    injection (self.encodeAll_eq items []).symm.trans hencode with _ hcut
    rw [(self.feed_drain chunks).eq_waiting_iff, ← hcut, List.nil_append]
    exact drain_encodeAll_iff hlen

/-- A newline in a string splits it, and a carriage return at its end is lost. -/
theorem not_decode_encode :
    ¬∀ (self : LineCodec) (s : String) (r w : Bytes), (asBytes s).length ≤ self.maxLineLen →
      self.encode s [] = .ok () w → self.decode (w ++ r) = .ok (some s) r := by
  intro h
  have hdecode := h new "a\nb" [] _ (by decide) (new.encode_eq "a\nb" [])
  have hread : new.decode ([] ++ (asBytes "a\nb" ++ [0x0a]) ++ []) = .ok (some "a") [0x62, 0x0a] :=
    runOn_eq_ok.1 (by decide)
  injection hread.symm.trans hdecode with hitem
  exact absurd (Option.some.inj hitem) (by decide)

end LineCodec

end RsNetty

import RsNetty.Codec.DelimiterBasedFrame
import RsNetty.Theory.Segmentation

/-!
# Delimiters and the cutting of a stream

A part of a delimiter counts as a part of the frame, and a delimiter that begins later can be
complete earlier. `feed_frames_iff` says for which cuts of a stream neither shows.
-/

namespace RsNetty
open EStateM Segmentation

/-! ## The first delimiter -/

theorem minByPosLen_eq_none {ms : List (Nat × Nat)} : minByPosLen ms = none ↔ ms = [] := by
  cases ms with
  | nil => exact iff_of_true rfl rfl
  | cons m ms =>
    rw [minByPosLen]
    split <;> simp

theorem minByPosLen_eq_some {ms : List (Nat × Nat)} (h : minByPosLen ms = some best) :
    best ∈ ms ∧ ∀ m ∈ ms, best.1 < m.1 ∨ best.1 = m.1 ∧ best.2 ≤ m.2 := by
  induction ms generalizing best with
  | nil => cases h
  | cons m ms ih =>
    rw [minByPosLen] at h
    cases hrest : minByPosLen ms with
    | none =>
      rw [hrest] at h
      cases h
      rw [minByPosLen_eq_none.1 hrest]
      exact ⟨.head _, List.forall_mem_singleton.2 (.inr ⟨rfl, Nat.le_refl _⟩)⟩
    | some rest =>
      rw [hrest] at h
      obtain ⟨hmem, hmin⟩ := ih hrest
      injection h with h
      split at h
      next hlt =>
        subst h
        refine ⟨.tail _ hmem, List.forall_mem_cons.2 ⟨?_, hmin⟩⟩
        omega
      next hge =>
        subst h
        refine ⟨.head _, List.forall_mem_cons.2 ⟨.inr ⟨rfl, Nat.le_refl _⟩, fun m' hm' => ?_⟩⟩
        have := hmin m' hm'
        omega

variable {delimiters : List Bytes} {b r : Bytes} {frameEnd delimiterLen : Nat}

theorem findDelimiter_eq_none :
    findDelimiter b delimiters = none ↔ ∀ d ∈ delimiters, Window.find d b = none := by
  rw [findDelimiter, minByPosLen_eq_none, List.filterMap_eq_nil_iff]
  simp only [Option.map_eq_none_iff]

theorem findDelimiter_eq_some (h : findDelimiter b delimiters = some (frameEnd, delimiterLen)) :
    (∃ d ∈ delimiters, Window.find d b = some frameEnd ∧ d.length = delimiterLen) ∧
      ∀ d ∈ delimiters, ∀ pos, Window.find d b = some pos →
        frameEnd < pos ∨ frameEnd = pos ∧ delimiterLen ≤ d.length := by
  obtain ⟨hmem, hmin⟩ := minByPosLen_eq_some h
  constructor
  · obtain ⟨d, hd, hfind⟩ := List.mem_filterMap.1 hmem
    obtain ⟨pos, hpos, heq⟩ := Option.map_eq_some_iff.1 hfind
    cases heq
    exact ⟨d, hd, hpos, rfl⟩
  · intro d hd pos hpos
    exact hmin (pos, d.length) (List.mem_filterMap.2 ⟨d, hd, by rw [hpos]; rfl⟩)

theorem findDelimiter_add_le (h : findDelimiter b delimiters = some (frameEnd, delimiterLen)) :
    frameEnd + delimiterLen ≤ b.length := by
  obtain ⟨⟨d, -, hfind, rfl⟩, -⟩ := findDelimiter_eq_some h
  exact Window.find_add_length_le hfind

/-- A delimiter stays where it is when more follows, unless one that began earlier is completed. -/
theorem findDelimiter_append (h : findDelimiter b delimiters = some (frameEnd, delimiterLen))
    (r : Bytes) : ∃ frameEnd' delimiterLen',
      findDelimiter (b ++ r) delimiters = some (frameEnd', delimiterLen') ∧
        ((frameEnd', delimiterLen') = (frameEnd, delimiterLen) ∨
          frameEnd' < frameEnd ∧ b.length < frameEnd' + delimiterLen') := by
  have hle := findDelimiter_add_le h
  obtain ⟨⟨d, hd, hfind, hlen⟩, hmin⟩ := findDelimiter_eq_some h
  have hlong := Window.find_append_of_eq_some hfind r
  cases h' : findDelimiter (b ++ r) delimiters with
  | none => cases (findDelimiter_eq_none.1 h' d hd).symm.trans hlong
  | some found =>
    obtain ⟨frameEnd', delimiterLen'⟩ := found
    refine ⟨frameEnd', delimiterLen', rfl, ?_⟩
    obtain ⟨⟨d', hd', hfind', hlen'⟩, hmin'⟩ := findDelimiter_eq_some h'
    have hfirst := hmin' d hd frameEnd hlong
    cases hpart : Window.find d' b with
    | none =>
      have := Window.lt_of_find_append (Window.ne_nil_of_find hpart) hpart hfind'
      exact .inr (by omega)
    | some pos =>
      cases (Window.find_append_of_eq_some hpart r).symm.trans hfind'
      have := hmin d' hd' _ hpart
      left
      rw [Prod.mk.injEq]
      omega

/-- A delimiter that is complete is found. -/
theorem findDelimiter_of_append
    (h : findDelimiter (b ++ r) delimiters = some (frameEnd, delimiterLen))
    (hle : frameEnd + delimiterLen ≤ b.length) :
    findDelimiter b delimiters = some (frameEnd, delimiterLen) := by
  cases hb : findDelimiter b delimiters with
  | none =>
    obtain ⟨⟨d, hd, hfind, hlen⟩, -⟩ := findDelimiter_eq_some h
    have hpart := findDelimiter_eq_none.1 hb d hd
    have := Window.lt_of_find_append (Window.ne_nil_of_find hpart) hpart hfind
    omega
  | some found =>
    obtain ⟨frameEnd', delimiterLen', h', hsame | hbefore⟩ := findDelimiter_append hb r
    · exact (congrArg some hsame.symm).trans (h'.symm.trans h)
    · cases h.symm.trans h'
      omega

namespace DelimiterBasedFrameDecoder

variable {self : DelimiterBasedFrameDecoder}

theorem findDelimiter_nil (self : DelimiterBasedFrameDecoder) :
    findDelimiter [] self.delimiters = none := by
  rw [findDelimiter_eq_none]
  intro d hd
  exact if_neg (self.delimiter_ne_nil d hd)

/-! ## One call -/

/-- The frame in front of a delimiter. -/
def frame (self : DelimiterBasedFrameDecoder) (b : Bytes) (frameEnd delimiterLen : Nat) : Bytes :=
  if self.stripDelimiter then b.take frameEnd else b.take (frameEnd + delimiterLen)

theorem decode_none (h : findDelimiter b self.delimiters = none)
    (hlen : b.length ≤ self.maxFrameLength) : self.decode b = .ok none b := by
  rw [decode, get_bind, h]
  dsimp only
  rw [failIf_eq_ok.2 (Nat.not_lt.2 hlen)]
  rfl

theorem decode_full (h : findDelimiter b self.delimiters = none)
    (hlen : self.maxFrameLength < b.length) :
    self.decode b = .error (.err (.frameTooLarge b.length self.maxFrameLength)) b := by
  rw [decode, get_bind, h]
  dsimp only
  rw [failIf, if_pos hlen]
  rfl

theorem decode_longFrame (h : findDelimiter b self.delimiters = some (frameEnd, delimiterLen))
    (hlen : self.maxFrameLength < frameEnd) :
    self.decode b = .error (.err (.frameTooLarge frameEnd self.maxFrameLength)) b := by
  rw [decode, get_bind, h]
  dsimp only
  rw [failIf, if_pos hlen]
  rfl

theorem decode_frame (h : findDelimiter b self.delimiters = some (frameEnd, delimiterLen))
    (hlen : frameEnd ≤ self.maxFrameLength) :
    self.decode b =
      .ok (some (self.frame b frameEnd delimiterLen)) (b.drop (frameEnd + delimiterLen)) := by
  rw [decode, get_bind, h]
  dsimp only
  rw [failIf_eq_ok.2 (Nat.not_lt.2 hlen), Exec.call_ok, bind_of_ok (splitTo_ok (findDelimiter_add_le h)),
    List.take_take, Nat.min_eq_left (Nat.le_add_right _ _)]
  rfl

/-- What a call does. -/
inductive Step (self : DelimiterBasedFrameDecoder) (b : Bytes) : Prop
  | more : findDelimiter b self.delimiters = none → b.length ≤ self.maxFrameLength →
      self.decode b = .ok none b → Step self b
  | item {frameEnd delimiterLen : Nat} :
      findDelimiter b self.delimiters = some (frameEnd, delimiterLen) →
      frameEnd ≤ self.maxFrameLength →
      self.decode b =
        .ok (some (self.frame b frameEnd delimiterLen)) (b.drop (frameEnd + delimiterLen)) →
      Step self b
  | error {current : Nat} : findDelimiter b self.delimiters ≠ none ∨ self.maxFrameLength < b.length →
      self.decode b = .error (.err (.frameTooLarge current self.maxFrameLength)) b → Step self b

theorem step (self : DelimiterBasedFrameDecoder) (b : Bytes) : self.Step b := by
  cases hb : findDelimiter b self.delimiters with
  | none =>
    by_cases hlen : b.length ≤ self.maxFrameLength
    · exact .more hb hlen (decode_none hb hlen)
    · have hlen := Nat.lt_of_not_le hlen
      exact .error (.inr hlen) (decode_full hb hlen)
  | some found =>
    by_cases hlen : found.1 ≤ self.maxFrameLength
    · exact .item hb hlen (decode_frame hb hlen)
    · have hfound := hb ▸ Option.some_ne_none found
      exact .error (.inl hfound) (decode_longFrame hb (Nat.lt_of_not_le hlen))

/-- The delimiter of an allowed frame is not complete yet, but another one is, or the buffer is over
the limit. -/
def TooEarly (self : DelimiterBasedFrameDecoder) (b r : Bytes) : Prop :=
  ∃ frameEnd delimiterLen,
    findDelimiter (b ++ r) self.delimiters = some (frameEnd, delimiterLen) ∧
      frameEnd ≤ self.maxFrameLength ∧ b.length < frameEnd + delimiterLen ∧
        (findDelimiter b self.delimiters ≠ none ∨ self.maxFrameLength < b.length)

theorem not_tooEarly_nil (self : DelimiterBasedFrameDecoder) (r : Bytes) : ¬self.TooEarly [] r := by
  rintro ⟨frameEnd, delimiterLen, -, -, -, hfind | hlen⟩
  · exact hfind self.findDelimiter_nil
  · exact Nat.not_lt_zero _ hlen

/-- A call that is not too early decides what it would have decided had it seen more. -/
theorem decode_stable (h : ¬self.TooEarly b r) :
    StableCall self.decode (fun _ _ => True) b r := by
  have hlength : (b ++ r).length = b.length + r.length := List.length_append
  cases hb : findDelimiter b self.delimiters with
  | none =>
    by_cases hlen : b.length ≤ self.maxFrameLength
    · exact .none (decode_none hb hlen)
    · have hlen := Nat.lt_of_not_le hlen
      cases hbr : findDelimiter (b ++ r) self.delimiters with
      | none => exact .error (decode_full hb hlen) (decode_full hbr (by omega)) trivial
      | some found =>
        by_cases hfits : found.1 ≤ self.maxFrameLength
        · refine absurd ⟨_, _, hbr, hfits, Nat.lt_of_not_le fun hle => ?_, .inr hlen⟩ h
          cases hb.symm.trans (findDelimiter_of_append hbr hle)
        · exact .error (decode_full hb hlen)
            (decode_longFrame hbr (Nat.lt_of_not_le hfits)) trivial
  | some found =>
    obtain ⟨frameEnd, delimiterLen⟩ := found
    have hle := findDelimiter_add_le hb
    obtain ⟨frameEnd', delimiterLen', hbr, hsame | ⟨hbefore, hshort⟩⟩ := findDelimiter_append hb r
    · cases hsame
      by_cases hlen : frameEnd ≤ self.maxFrameLength
      · have hlong := decode_frame hbr hlen
        have hframe : self.frame (b ++ r) frameEnd delimiterLen =
            self.frame b frameEnd delimiterLen := by
          rw [frame, frame, List.take_append_of_le_length hle,
            List.take_append_of_le_length (by omega)]
        rw [hframe, List.drop_append_of_le_length hle] at hlong
        refine .item (decode_frame hb hlen) ?_ hlong
        obtain ⟨⟨d, hd, -, hdlen⟩, -⟩ := findDelimiter_eq_some hb
        have := List.length_pos_iff.2 (self.delimiter_ne_nil d hd)
        rw [List.length_drop]
        omega
      · have hlen := Nat.lt_of_not_le hlen
        exact .error (decode_longFrame hb hlen) (decode_longFrame hbr hlen) trivial
    · by_cases hfits : frameEnd' ≤ self.maxFrameLength
      · exact absurd ⟨_, _, hbr, hfits, hshort, .inl (hb ▸ Option.some_ne_none _)⟩ h
      · have hlen : self.maxFrameLength < frameEnd' := Nat.lt_of_not_le hfits
        exact .error (decode_longFrame hb (Nat.lt_trans hlen hbefore)) (decode_longFrame hbr hlen)
          trivial

theorem frame_length (h : frameEnd + delimiterLen ≤ b.length) :
    (self.frame b frameEnd delimiterLen).length =
      if self.stripDelimiter then frameEnd else frameEnd + delimiterLen := by
  rw [frame]
  split
  · rw [List.length_take, Nat.min_eq_left (by omega)]
  · rw [List.length_take, Nat.min_eq_left h]

/-- The frame in front of the delimiter that was found too early is another one. -/
theorem frame_ne (hb : findDelimiter b self.delimiters = some (frameEnd, delimiterLen))
    (hbr : findDelimiter (b ++ r) self.delimiters = some (frameEnd', delimiterLen'))
    (hshort : b.length < frameEnd' + delimiterLen') :
    self.frame b frameEnd delimiterLen ≠ self.frame (b ++ r) frameEnd' delimiterLen' := by
  intro heq
  have hle := findDelimiter_add_le hb
  have hlength := congrArg List.length heq
  rw [frame_length hle, frame_length (findDelimiter_add_le hbr)] at hlength
  obtain ⟨_, _, hfound, hsame | ⟨hbefore, -⟩⟩ := findDelimiter_append hb r
  · cases hsame
    cases hfound.symm.trans hbr
    omega
  · cases hfound.symm.trans hbr
    split at hlength <;> omega

/-- A call that is too early shows it. -/
theorem TooEarly.differsAt (h : self.TooEarly b r) : DiffersAt (stateless decode) self b r := by
  obtain ⟨frameEnd, delimiterLen, hbr, hfits, hshort, hdecided⟩ := h
  have hwhole := decode_frame hbr hfits
  cases hb : findDelimiter b self.delimiters with
  | none =>
    have hlen := hdecided.resolve_left (not_not_intro hb)
    exact .breaks ⟨⟨_, _, stateless_error (decode_full hb hlen)⟩, _, _, stateless_ok hwhole⟩
  | some found =>
    by_cases hlen : found.1 ≤ self.maxFrameLength
    · refine .item (stateless_ok (decode_frame hb hlen)) fun st hst => ?_
      have hsame := (stateless_ok hwhole).symm.trans hst
      injection hsame with hsame
      injection hsame with hsame
      exact frame_ne hb hbr hshort hsame.symm
    · have hlen := Nat.lt_of_not_le hlen
      exact .breaks ⟨⟨_, _, stateless_error (decode_longFrame hb hlen)⟩, _, _, stateless_ok hwhole⟩

theorem differsAt_iff : DiffersAt (stateless decode) self b r ↔ self.TooEarly b r := by
  constructor
  · intro hdiffers
    by_contra h
    exact (decode_stable h).stateless.not_differsAt hdiffers
  · exact TooEarly.differsAt

theorem stableOrDiffers : StableOrDiffers (stateless decode) := by
  intro self b r
  by_cases h : self.TooEarly b r
  · exact .inr h.differsAt
  · exact .inl (decode_stable h).stateless

/-! ## The frames of a stream -/

/-- A frame of `s` begins where `t` is left, behind frames that are not too long. -/
inductive FrameAt (self : DelimiterBasedFrameDecoder) : Bytes → Bytes → Prop
  | here : FrameAt self s s
  | next {frameEnd delimiterLen : Nat} :
      findDelimiter s self.delimiters = some (frameEnd, delimiterLen) →
      frameEnd ≤ self.maxFrameLength → FrameAt self (s.drop (frameEnd + delimiterLen)) t →
      FrameAt self s t

theorem FrameAt.length_le (h : FrameAt self s t) : t.length ≤ s.length := by
  induction h with
  | here => exact Nat.le_refl _
  | next _ _ _ ih =>
    rw [List.length_drop] at ih
    omega

theorem FrameAt.trans (h : FrameAt self s t) (h' : FrameAt self t u) : FrameAt self s u := by
  induction h with
  | here => exact h'
  | next hfind hfits _ ih => exact .next hfind hfits (ih h')

/-- No chunk ends in a frame of the stream too early for it. -/
def NeverEarly (self : DelimiterBasedFrameDecoder) (chunks : List Bytes) : Prop :=
  ∀ b after, after <:+ chunks → FrameAt self chunks.flatten (b ++ after.flatten) →
    ¬self.TooEarly b after.flatten

theorem findDelimiter_of_not_tooEarly (h : ¬self.TooEarly b r)
    (hb : findDelimiter b self.delimiters = some (frameEnd, delimiterLen))
    (hfits : frameEnd ≤ self.maxFrameLength) :
    findDelimiter (b ++ r) self.delimiters = some (frameEnd, delimiterLen) := by
  obtain ⟨frameEnd', delimiterLen', hbr, hsame | ⟨hbefore, hshort⟩⟩ := findDelimiter_append hb r
  · exact hbr.trans (congrArg some hsame)
  · refine absurd ⟨_, _, hbr, by omega, hshort, .inl ?_⟩ h
    rw [hb]
    exact Option.some_ne_none _

/-- A call that takes a frame takes the first one of the stream. -/
theorem frameAt_of_item (h : ¬self.TooEarly b r)
    (hd : stateless decode (self, b) = .ok (some i) (s₁, b₁)) :
    FrameAt self (b ++ r) (b₁ ++ r) ∧ s₁ = self := by
  cases self.step b with
  | more _ _ hd' => cases (stateless_ok hd').symm.trans hd
  | item hfind hfits hd' =>
    cases (stateless_ok hd').symm.trans hd
    refine ⟨.next (findDelimiter_of_not_tooEarly h hfind hfits) hfits ?_, rfl⟩
    rw [List.drop_append_of_le_length (findDelimiter_add_le hfind)]
    exact .here
  | error _ hd' => cases (stateless_error hd').symm.trans hd

/-- A call that asks for more leaves everything. -/
theorem eq_of_none (hd : stateless decode (self, b) = .ok none (s₁, b₁)) : s₁ = self ∧ b₁ = b := by
  cases self.step b with
  | more _ _ hd' =>
    cases (stateless_ok hd').symm.trans hd
    exact ⟨rfl, rfl⟩
  | item _ _ hd' => cases (stateless_ok hd').symm.trans hd
  | error _ hd' => cases (stateless_error hd').symm.trans hd

theorem NeverEarly.calls {chunks : List Bytes} (h : self.NeverEarly chunks)
    (hc : Calls (stateless decode) self b cs s' b' cs') (hcs : cs <:+ chunks)
    (hframe : FrameAt self chunks.flatten (b ++ cs.flatten)) : ¬s'.TooEarly b' cs'.flatten := by
  generalize hself : self = self' at hc
  induction hc with
  | here =>
    subst hself
    exact h _ _ hcs hframe
  | item hd _ ih =>
    subst hself
    obtain ⟨htail, rfl⟩ := frameAt_of_item (h _ _ hcs hframe) hd
    exact ih hcs (hframe.trans htail) rfl
  | more hd _ ih =>
    subst hself
    obtain ⟨rfl, rfl⟩ := eq_of_none hd
    rw [List.flatten_cons, ← List.append_assoc] at hframe
    exact ih ((List.suffix_cons _ _).trans hcs) hframe rfl

theorem undecided_of_not_tooEarly (h : ¬self.TooEarly b r)
    (hfind : findDelimiter (b ++ r) self.delimiters = some (frameEnd, delimiterLen))
    (hfits : frameEnd ≤ self.maxFrameLength) (hshort : b.length < frameEnd + delimiterLen) :
    findDelimiter b self.delimiters = none ∧ b.length ≤ self.maxFrameLength := by
  by_contra hdecided
  refine h ⟨_, _, hfind, hfits, hshort, ?_⟩
  rwa [not_and_or, Nat.not_le] at hdecided

/-- Where a chunk ends too early for a frame of the stream, the run calls the decoder too early, there
or before. -/
theorem exists_tooEarly (b : Bytes) (cs : List Bytes)
    (hframe : FrameAt self (b ++ cs.flatten) (b' ++ after.flatten)) (hafter : after <:+ cs)
    (hearly : self.TooEarly b' after.flatten) :
    ∃ b₁ cs₁, Calls (stateless decode) self b cs self b₁ cs₁ ∧ self.TooEarly b₁ cs₁.flatten := by
  by_cases hnow : self.TooEarly b cs.flatten
  · exact ⟨b, cs, .here, hnow⟩
  have hmore (hundecided : findDelimiter b self.delimiters = none ∧ b.length ≤ self.maxFrameLength)
      (hne : after ≠ cs) : ∃ b₁ cs₁, Calls (stateless decode) self b cs self b₁ cs₁ ∧
        self.TooEarly b₁ cs₁.flatten := by
    match cs, hframe, hafter with
    | [], _, hafter => exact absurd (List.suffix_nil.1 hafter) hne
    | c :: cs, hframe, hafter =>
      rw [List.flatten_cons, ← List.append_assoc] at hframe
      have hafter := (List.suffix_cons_iff.1 hafter).resolve_left hne
      obtain ⟨b₁, cs₁, hc, h⟩ := exists_tooEarly (b ++ c) cs hframe hafter hearly
      exact ⟨b₁, cs₁, .more (stateless_ok (decode_none hundecided.1 hundecided.2)) hc, h⟩
  generalize hs : b ++ cs.flatten = s at hframe
  generalize ht : b' ++ after.flatten = t at hframe
  cases hframe with
  | here =>
    obtain ⟨before, rfl⟩ := hafter
    rw [← ht, List.flatten_append, ← List.append_assoc] at hs
    obtain rfl := List.append_cancel_right hs
    have ⟨frameEnd, delimiterLen, hfind, hfits, hshort, _⟩ := hearly
    rw [List.append_assoc, ← List.flatten_append] at hfind
    rw [List.length_append] at hshort
    refine hmore (undecided_of_not_tooEarly hnow hfind hfits (by omega)) fun hall => hnow ?_
    rw [← hall]
    rw [List.self_eq_append_left.1 hall] at hearly
    rwa [List.flatten_nil, List.append_nil] at hearly
  | @next _ _ frameEnd delimiterLen hfind hfits hrest =>
    subst hs ht
    by_cases hle : frameEnd + delimiterLen ≤ b.length
    · have hb := findDelimiter_of_append hfind hle
      rw [List.drop_append_of_le_length hle] at hrest
      have hlt := (decode_stable hnow).length_lt (decode_frame hb hfits)
      obtain ⟨b₁, cs₁, hc, h⟩ := exists_tooEarly _ cs hrest hafter hearly
      exact ⟨b₁, cs₁, .item (stateless_ok (decode_frame hb hfits)) hc, h⟩
    · have hlt := Nat.lt_of_not_le hle
      refine hmore (undecided_of_not_tooEarly hnow hfind hfits hlt) ?_
      rintro rfl
      have hwhole := findDelimiter_add_le hfind
      have hlen := hrest.length_le
      rw [List.length_append] at hwhole
      rw [List.length_drop, List.length_append, List.length_append] at hlen
      omega
termination_by (cs.length, b.length)
decreasing_by
  · exact Prod.Lex.left _ _ (Nat.lt_succ_self _)
  · exact Prod.Lex.right _ hlt

theorem neverEarly_iff (chunks : List Bytes) :
    self.NeverEarly chunks ↔ ∀ s b cs, FeedCalls (stateless decode) self [] chunks s b cs →
      ¬s.TooEarly b cs.flatten := by
  constructor
  · rintro h s b cs ⟨c, cs₀, rfl, hc⟩
    exact h.calls hc (List.suffix_cons _ _) .here
  · intro h b after hafter hframe hearly
    by_cases hall : after = chunks
    · have hlen := (hall ▸ hframe).length_le
      rw [List.length_append] at hlen
      obtain rfl := List.length_eq_zero_iff.1 (show b.length = 0 by omega)
      exact self.not_tooEarly_nil _ hearly
    · cases chunks with
      | nil => exact hall (List.suffix_nil.1 hafter)
      | cons c cs =>
        have hafter := (List.suffix_cons_iff.1 hafter).resolve_left hall
        obtain ⟨b₁, cs₁, hc, hearly⟩ := exists_tooEarly c cs hframe hafter hearly
        exact h self b₁ cs₁ ⟨c, cs, rfl, hc⟩ hearly

/-- The run stops at a frame that is too large. -/
def EndsInFrameTooLarge (ending : Ending Fault DelimiterBasedFrameDecoder UInt8) : Prop :=
  ∃ current max, ending = .failed (.err (.frameTooLarge current max))

/-- Two runs with the same frames, both or neither of which end in `FrameTooLarge`. -/
def SameFrames (x y : List Bytes × Ending Fault DelimiterBasedFrameDecoder UInt8) : Prop :=
  x.1 = y.1 ∧ (EndsInFrameTooLarge x.2 ↔ EndsInFrameTooLarge y.2)

theorem feed_endsInFrameTooLarge {b : Bytes} {chunks : List Bytes} :
    EndsInFrameTooLarge (feed (stateless decode) self b chunks).2 ↔
      ∃ e, (feed (stateless decode) self b chunks).2 = .failed e := by
  constructor
  · rintro ⟨current, max, h⟩
    exact ⟨_, h⟩
  · rintro ⟨e, h⟩
    have hlarge : ∃ current max, e = .err (.frameTooLarge current max) := by
      refine feed_failed (P := fun e => ∃ current max, e = .err (.frameTooLarge current max))
        (fun s b e st hd => ?_) h
      cases s.step b with
      | more _ _ hd' => cases (stateless_ok hd').symm.trans hd
      | item _ _ hd' => cases (stateless_ok hd').symm.trans hd
      | error _ hd' =>
        cases (stateless_error hd').symm.trans hd
        exact ⟨_, _, rfl⟩
    obtain ⟨current, max, rfl⟩ := hlarge
    exact ⟨current, max, h⟩

/-- The frames of a stream, and whether it ends in `FrameTooLarge`, do not depend on how it is cut,
exactly as long as no chunk ends in an allowed frame, before its delimiter is complete, with a
buffer that holds another delimiter or is over the limit. -/
theorem feed_frames_iff (self : DelimiterBasedFrameDecoder) (chunks : List Bytes) :
    SameFrames (feed (stateless decode) self [] chunks)
        (feed (stateless decode) self [] [chunks.flatten]) ↔
      self.NeverEarly chunks := by
  have hnil : stateless decode (self, []) = .ok none (self, []) :=
    stateless_ok (decode_none self.findDelimiter_nil (Nat.zero_le _))
  rw [SameFrames, feed_endsInFrameTooLarge, feed_endsInFrameTooLarge, neverEarly_iff]
  refine (feed_sameOutcome_iff_differs stableOrDiffers hnil chunks).trans ?_
  exact forall₃_congr fun s b cs => imp_congr_right fun _ => not_congr differsAt_iff

/-- A line of one byte and a limit of one: the carriage return is counted while the newline is still
to come. -/
theorem not_sameFrames_cut :
    ¬∀ (self : DelimiterBasedFrameDecoder) (chunks : List Bytes),
      SameFrames (feed (stateless decode) self [] chunks)
        (feed (stateless decode) self [] [chunks.flatten]) := by
  intro h
  have hsame := h (lineDelimiter 1) [[0x61, 0x0d], [0x0a]]
  have hcut : (lineDelimiter 1).decode [0x61, 0x0d] = _ :=
    decode_full (by decide) (by decide)
  have hwhole : (lineDelimiter 1).decode [0x61, 0x0d, 0x0a] = .ok (some [0x61]) [] :=
    have hfind : findDelimiter [0x61, 0x0d, 0x0a] (lineDelimiter 1).delimiters = some (1, 2) := by
      decide
    decode_frame hfind (by decide)
  rw [feed_cons, List.nil_append, drain_error (stateless_error hcut), feed_single,
    List.flatten_cons, List.flatten_singleton, List.nil_append] at hsame
  rw [List.cons_append, List.cons_append, List.nil_append,
    drain_item (stateless_ok hwhole) (by decide)] at hsame
  cases hsame.1

end DelimiterBasedFrameDecoder

end RsNetty

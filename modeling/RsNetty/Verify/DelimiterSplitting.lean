import RsNetty.Verify.DelimiterBasedFrame

/-!
# Splitting at delimiters

The delimiter that is found is the first one, so that frames, delimiters and what is left join to
the buffer (`drain_eq_waiting_iff`). What is encoded need not come back: another delimiter may begin
in the item and be completed by the one behind it (`decode_encoded_iff`).
-/

namespace RsNetty
open EStateM Segmentation

/-! ## Where the first delimiter stands -/

/-- No delimiter stands in front of this place, and none that stands here is shorter. -/
def FirstAt (delimiters : List Bytes) (b : Bytes) (frameEnd delimiterLen : Nat) : Prop :=
  ∀ d ∈ delimiters, ∀ k, d <+: b.drop k → frameEnd < k ∨ frameEnd = k ∧ delimiterLen ≤ d.length

section
variable {delimiters : List Bytes} {b : Bytes} {frameEnd delimiterLen : Nat}

theorem findDelimiter_eq_none_iff :
    findDelimiter b delimiters = none ↔ ∀ d ∈ delimiters, ¬d <:+: b := by
  simp only [findDelimiter_eq_none, Window.find_eq_none_iff]

theorem findDelimiter_stands (h : findDelimiter b delimiters = some (frameEnd, delimiterLen)) :
    ∃ d ∈ delimiters, d <+: b.drop frameEnd ∧ d.length = delimiterLen := by
  obtain ⟨⟨d, hd, hfind, hlen⟩, -⟩ := findDelimiter_eq_some h
  exact ⟨d, hd, Window.prefix_drop_of_find hfind, hlen⟩

theorem findDelimiter_firstAt (h : findDelimiter b delimiters = some (frameEnd, delimiterLen)) :
    FirstAt delimiters b frameEnd delimiterLen := by
  obtain ⟨-, hmin⟩ := findDelimiter_eq_some h
  intro d hd k hstands
  obtain ⟨pos, hle, hfind⟩ := Window.exists_find_of_prefix_drop hstands
  have := hmin d hd pos hfind
  omega

/-- The first delimiter is unique up to its bytes. -/
theorem findDelimiter_of_firstAt {d : Bytes} (hd : d ∈ delimiters) (hstands : d <+: b.drop frameEnd)
    (hfirst : FirstAt delimiters b frameEnd d.length) :
    findDelimiter b delimiters = some (frameEnd, d.length) := by
  cases hb : findDelimiter b delimiters with
  | none =>
    obtain ⟨_, _, hfind⟩ := Window.exists_find_of_prefix_drop hstands
    cases (findDelimiter_eq_none.1 hb d hd).symm.trans hfind
  | some found =>
    obtain ⟨frameEnd', delimiterLen'⟩ := found
    obtain ⟨d', hd', hstands', rfl⟩ := findDelimiter_stands hb
    have hle := hfirst d' hd' frameEnd' hstands'
    have hge := findDelimiter_firstAt hb d hd frameEnd hstands
    rw [Option.some.injEq, Prod.mk.injEq]
    omega

end

namespace DelimiterBasedFrameDecoder

variable {self : DelimiterBasedFrameDecoder} {b r frame delimiter rest : Bytes}

/-! ## Frames in front of a buffer -/

/-- The item for a frame and its delimiter. -/
def framed (self : DelimiterBasedFrameDecoder) (frame delimiter : Bytes) : Bytes :=
  if self.stripDelimiter then frame else frame ++ delimiter

/-- An allowed frame and its delimiter, in front of the rest of a buffer. -/
structure Leads (codec : DelimiterBasedFrameDecoder) (frame delimiter rest : Bytes) : Prop where
  mem : delimiter ∈ codec.delimiters
  fits : frame.length ≤ codec.maxFrameLength
  first : FirstAt codec.delimiters (frame ++ delimiter ++ rest) frame.length delimiter.length

theorem Leads.findDelimiter_eq (h : self.Leads frame delimiter rest) :
    findDelimiter (frame ++ delimiter ++ rest) self.delimiters =
      some (frame.length, delimiter.length) := by
  refine findDelimiter_of_firstAt h.mem ?_ h.first
  rw [List.append_assoc, List.drop_left]
  exact List.prefix_append _ _

theorem Leads.decode_eq (h : self.Leads frame delimiter rest) :
    self.decode (frame ++ delimiter ++ rest) = .ok (some (self.framed frame delimiter)) rest := by
  have hlen : (frame ++ delimiter).length = frame.length + delimiter.length := List.length_append
  have hframe : self.frame (frame ++ delimiter ++ rest) frame.length delimiter.length =
      self.framed frame delimiter := by
    rw [DelimiterBasedFrameDecoder.frame, framed, ← hlen, List.take_left, List.append_assoc,
      List.take_left]
  rw [decode_frame h.findDelimiter_eq h.fits, hframe, ← hlen, List.drop_left]

/-- An item is the frame that leads its buffer. -/
theorem exists_leads (hfind : findDelimiter b self.delimiters = some (frameEnd, delimiterLen))
    (hfits : frameEnd ≤ self.maxFrameLength) :
    ∃ delimiter, self.Leads (b.take frameEnd) delimiter (b.drop (frameEnd + delimiterLen)) ∧
      b = b.take frameEnd ++ delimiter ++ b.drop (frameEnd + delimiterLen) := by
  have hle := findDelimiter_add_le hfind
  obtain ⟨d, hd, hstands, rfl⟩ := findDelimiter_stands hfind
  have hlen : (b.take frameEnd).length = frameEnd := List.length_take_of_le (by omega)
  have hb : b.take frameEnd ++ d ++ b.drop (frameEnd + d.length) = b := by
    obtain ⟨rest, hrest⟩ := hstands
    rw [← List.drop_drop, ← hrest, List.drop_left, List.append_assoc, hrest,
      List.take_append_drop]
  refine ⟨d, ⟨hd, hlen.symm ▸ hfits, ?_⟩, hb.symm⟩
  rw [hb, hlen]
  exact findDelimiter_firstAt hfind

/-- No delimiter stands in a frame. -/
theorem Leads.not_infix (h : self.Leads frame delimiter rest) (hd : d ∈ self.delimiters) :
    ¬d <:+: frame := by
  rintro ⟨before, after, rfl⟩
  have hstands : d <+: (before ++ d ++ after ++ delimiter ++ rest).drop before.length := by
    simp only [List.append_assoc, List.drop_left]
    exact List.prefix_append _ _
  have hfirst := h.first d hd _ hstands
  have hpos := List.length_pos_iff.2 (self.delimiter_ne_nil d hd)
  simp only [List.length_append] at hfirst
  omega

/-! ## Splitting a buffer -/

/-- Frames, each with its delimiter, and what is left behind them. -/
def joined (pieces : List (Bytes × Bytes)) (r : Bytes) : Bytes :=
  (pieces.flatMap fun (frame, delimiter) => frame ++ delimiter) ++ r

@[simp] theorem joined_nil (r : Bytes) : joined [] r = r := rfl

@[simp] theorem joined_cons (piece : Bytes × Bytes) (pieces : List (Bytes × Bytes)) (r : Bytes) :
    joined (piece :: pieces) r = piece.1 ++ piece.2 ++ joined pieces r := by
  rw [joined, List.flatMap_cons, List.append_assoc, joined]

/-- The buffer is split at every delimiter, each of which is the first one and the shortest where it
stands. -/
structure Splits (codec : DelimiterBasedFrameDecoder) (pieces : List (Bytes × Bytes))
    (b r : Bytes) : Prop where
  joins : b = joined pieces r
  configured : ∀ piece ∈ pieces, piece.2 ∈ codec.delimiters
  fits : ∀ piece ∈ pieces, piece.1.length ≤ codec.maxFrameLength
  rest_fits : r.length ≤ codec.maxFrameLength
  clean : ∀ piece ∈ pieces, ∀ d ∈ codec.delimiters, ¬d <:+: piece.1
  rest_clean : ∀ d ∈ codec.delimiters, ¬d <:+: r
  first : ∀ before piece after, pieces = before ++ piece :: after →
    FirstAt codec.delimiters (joined (piece :: after) r) piece.1.length piece.2.length

theorem splits_nil_iff : self.Splits [] b r ↔
    b = r ∧ r.length ≤ self.maxFrameLength ∧ ∀ d ∈ self.delimiters, ¬d <:+: r := by
  constructor
  · intro h
    exact ⟨h.joins, h.rest_fits, h.rest_clean⟩
  · rintro ⟨rfl, hfits, hclean⟩
    exact {
      joins := rfl
      configured := List.forall_mem_nil _
      fits := List.forall_mem_nil _
      rest_fits := hfits
      clean := List.forall_mem_nil _
      rest_clean := hclean
      first := fun before _ _ h => absurd h.symm (List.append_ne_nil_of_right_ne_nil before
        (List.cons_ne_nil _ _)) }

theorem splits_cons_iff {piece : Bytes × Bytes} {pieces : List (Bytes × Bytes)} :
    self.Splits (piece :: pieces) b r ↔
      b = joined (piece :: pieces) r ∧ self.Leads piece.1 piece.2 (joined pieces r) ∧
        self.Splits pieces (joined pieces r) r := by
  constructor
  · intro h
    have hfirst := h.first [] piece pieces rfl
    rw [joined_cons] at hfirst
    refine ⟨h.joins, ⟨h.configured _ (.head _), h.fits _ (.head _), hfirst⟩, ?_⟩
    exact {
      joins := rfl
      configured := fun p hp => h.configured p (.tail _ hp)
      fits := fun p hp => h.fits p (.tail _ hp)
      rest_fits := h.rest_fits
      clean := fun p hp => h.clean p (.tail _ hp)
      rest_clean := h.rest_clean
      first := fun before p after hp => h.first (piece :: before) p after (hp ▸ rfl) }
  · rintro ⟨hjoins, hleads, h⟩
    refine {
      joins := hjoins
      configured := List.forall_mem_cons.2 ⟨hleads.mem, h.configured⟩
      fits := List.forall_mem_cons.2 ⟨hleads.fits, h.fits⟩
      rest_fits := h.rest_fits
      clean := List.forall_mem_cons.2 ⟨fun _ => hleads.not_infix, h.clean⟩
      rest_clean := h.rest_clean
      first := fun before p after hp => ?_ }
    cases before with
    | nil =>
      cases hp
      rw [joined_cons]
      exact hleads.first
    | cons _ before =>
      cases hp
      exact h.first before p after rfl

theorem Splits.drain_eq {pieces : List (Bytes × Bytes)} (h : self.Splits pieces b r) :
    drain (stateless decode) self b =
      (pieces.map fun (frame, delimiter) => self.framed frame delimiter, .waiting self r) := by
  induction pieces generalizing b with
  | nil =>
    obtain ⟨rfl, hfits, hclean⟩ := splits_nil_iff.1 h
    exact drain_none (stateless_ok (decode_none (findDelimiter_eq_none_iff.2 hclean) hfits))
  | cons piece pieces ih =>
    obtain ⟨rfl, hleads, hrest⟩ := splits_cons_iff.1 h
    have hpos := List.length_pos_iff.2 (self.delimiter_ne_nil _ hleads.mem)
    have hlt : (joined pieces r).length < (joined (piece :: pieces) r).length := by
      simp only [joined_cons, List.length_append]
      omega
    rw [joined_cons] at hlt ⊢
    rw [drain_item (stateless_ok hleads.decode_eq) hlt, ih hrest]
    rfl

theorem exists_splits {items : List Bytes} {self' : DelimiterBasedFrameDecoder}
    (h : drain (stateless decode) self b = (items, .waiting self' r)) :
    self' = self ∧ ∃ pieces, self.Splits pieces b r ∧
      items = pieces.map fun (frame, delimiter) => self.framed frame delimiter := by
  induction hlen : b.length using Nat.strongRecOn generalizing b items with
  | ind len ih =>
    subst hlen
    cases self.step b with
    | more hfind hfits hd =>
      rw [drain_none (stateless_ok hd)] at h
      cases h
      exact ⟨rfl, [], splits_nil_iff.2 ⟨rfl, hfits, findDelimiter_eq_none_iff.1 hfind⟩, rfl⟩
    | @item frameEnd delimiterLen hfind hfits hd =>
      obtain ⟨delimiter, hleads, hb⟩ := exists_leads hfind hfits
      generalize b.take frameEnd = frame at hleads hb
      generalize b.drop (frameEnd + delimiterLen) = rest at hleads hb
      subst hb
      have hpos := List.length_pos_iff.2 (self.delimiter_ne_nil _ hleads.mem)
      have hlt : rest.length < (frame ++ delimiter ++ rest).length := by
        simp only [List.length_append]
        omega
      rw [drain_item (stateless_ok hleads.decode_eq) hlt] at h
      obtain ⟨rfl, hending⟩ := Prod.mk.inj h
      obtain ⟨hself, pieces, hsplits, hitems⟩ := ih rest.length hlt (Prod.ext rfl hending) rfl
      obtain rfl := hsplits.joins
      refine ⟨hself, (frame, delimiter) :: pieces, ?_, ?_⟩
      · have hjoined := joined_cons (frame, delimiter) pieces r
        exact splits_cons_iff.2 ⟨hjoined.symm, hleads, hsplits⟩
      · exact congrArg (self.framed frame delimiter :: ·) hitems
    | error _ hd =>
      rw [drain_error (stateless_error hd)] at h
      cases h

/-- Repeated calls on a buffer run until they ask for more exactly when the buffer splits at its
delimiters into allowed frames and an allowed rest. The frames are what they return, and the rest is
what they leave. -/
theorem drain_eq_waiting_iff (self self' : DelimiterBasedFrameDecoder) (b r : Bytes)
    (items : List Bytes) :
    drain (stateless decode) self b = (items, .waiting self' r) ↔
      self' = self ∧ ∃ pieces, self.Splits pieces b r ∧
        items = pieces.map fun (frame, delimiter) =>
          if self.stripDelimiter then frame else frame ++ delimiter := by
  constructor
  · exact exists_splits
  · rintro ⟨rfl, pieces, hsplits, rfl⟩
    exact hsplits.drain_eq

/-! ## Encoding and decoding -/

/-- The delimiter that is appended to an item. -/
def firstDelimiter (self : DelimiterBasedFrameDecoder) : Bytes :=
  self.delimiters.head self.delimiters_ne_nil

theorem emits_encode (self : DelimiterBasedFrameDecoder) (item : Bytes) :
    Emits (self.encode item) () (item ++ self.firstDelimiter) := by
  intro dst
  have hhead : self.delimiters.head? = some self.firstDelimiter := List.head?_eq_some_head _
  rw [encode, hhead, ← List.append_assoc]
  rfl

/-- In front of these bytes no delimiter begins in the item, and none is a shorter beginning of the
one that is appended. -/
def Unambiguous (self : DelimiterBasedFrameDecoder) (item r : Bytes) : Prop :=
  ∀ d ∈ self.delimiters,
    (∀ k < item.length, ¬d <+: (item ++ self.firstDelimiter ++ r).drop k) ∧
      (d <+: self.firstDelimiter → self.firstDelimiter.length ≤ d.length)

instance (item r : Bytes) : Decidable (self.Unambiguous item r) :=
  inferInstanceAs (Decidable (∀ d ∈ self.delimiters, _ ∧ _))

theorem leads_encoded_iff {item : Bytes} (hfits : item.length ≤ self.maxFrameLength) :
    self.Leads item self.firstDelimiter r ↔ self.Unambiguous item r := by
  have hdrop : (item ++ self.firstDelimiter ++ r).drop item.length = self.firstDelimiter ++ r := by
    rw [List.append_assoc, List.drop_left]
  constructor
  · intro h d hd
    constructor
    · intro k hk hstands
      have := h.first d hd k hstands
      omega
    · intro hprefix
      have hstands : d <+: (item ++ self.firstDelimiter ++ r).drop item.length := by
        rw [hdrop]
        exact hprefix.trans (List.prefix_append _ _)
      have := h.first d hd _ hstands
      omega
  · intro h
    refine ⟨List.head_mem _, hfits, fun d hd k hstands => ?_⟩
    obtain ⟨hbefore, hshorter⟩ := h d hd
    rcases Nat.lt_trichotomy k item.length with hlt | rfl | hgt
    · exact absurd hstands (hbefore k hlt)
    · right
      refine ⟨rfl, ?_⟩
      by_contra hshort
      rw [hdrop] at hstands
      exact hshort (hshorter (Window.prefix_of_append hstands (Nat.le_of_not_le hshort)))
    · exact .inl hgt

/-- What leaves the rest is a frame in front of it. -/
theorem leads_of_decode {item w : Bytes} (hstrip : self.stripDelimiter = true)
    (h : self.decode (item ++ w ++ r) = .ok (some item) r) :
    self.Leads item w r := by
  cases self.step (item ++ w ++ r) with
  | more _ _ hd => cases hd.symm.trans h
  | error _ hd => cases hd.symm.trans h
  | @item frameEnd delimiterLen hfind hfits hd =>
    obtain ⟨delimiter, hleads, hb⟩ := exists_leads hfind hfits
    have hsame := hd.symm.trans h
    rw [frame, if_pos hstrip] at hsame
    injection hsame with hitem hrest
    rw [Option.some.injEq] at hitem
    rw [hitem, hrest] at hleads hb
    rw [List.append_cancel_left (List.append_cancel_right hb)]
    exact hleads

/-- The item comes back exactly when it is allowed and nothing in front of these bytes is
ambiguous. -/
theorem decode_encoded_iff (hstrip : self.stripDelimiter = true) (item : Bytes) :
    Emits (self.encode item) () (item ++ self.firstDelimiter) ∧
      ∀ r, self.decode (item ++ self.firstDelimiter ++ r) = .ok (some item) r ↔
        item.length ≤ self.maxFrameLength ∧ self.Unambiguous item r := by
  refine ⟨self.emits_encode item, fun r => ?_⟩
  constructor
  · intro h
    have hleads := leads_of_decode hstrip h
    exact ⟨hleads.fits, (leads_encoded_iff hleads.fits).1 hleads⟩
  · rintro ⟨hfits, hclear⟩
    have hdecode := ((leads_encoded_iff hfits).2 hclear).decode_eq
    rwa [framed, if_pos hstrip] at hdecode

/-- A line of one byte, with more behind it. -/
theorem decode_encoded_line :
    Emits ((lineDelimiter 16).encode [0x61]) () [0x61, 0x0d, 0x0a] ∧
      (lineDelimiter 16).decode [0x61, 0x0d, 0x0a, 0x62] = .ok (some [0x61]) [0x62] := by
  have hstrip : (lineDelimiter 16).stripDelimiter = true := rfl
  obtain ⟨hencode, hdecode⟩ := decode_encoded_iff hstrip [0x61]
  exact ⟨hencode, (hdecode [0x62]).2 (by decide)⟩

/-- The delimiter is found a byte early behind an item that is its first byte. -/
theorem not_decode_encoded :
    ¬∀ (self : DelimiterBasedFrameDecoder) (item r : Bytes), self.stripDelimiter = true →
      item.length ≤ self.maxFrameLength → (∀ d ∈ self.delimiters, ¬d <:+: item) →
      ∃ w, self.encode item [] = .ok () w ∧ self.decode (w ++ r) = .ok (some item) r := by
  intro h
  obtain ⟨w, hw, hdecode⟩ := h (new 16 [0x61, 0x61] (by decide)) [0x61] [] rfl (by decide)
    (by decide)
  cases hw
  have hfind : findDelimiter [0x61, 0x61, 0x61] [[0x61, 0x61]] = some (0, 2) := by decide
  have hearly : (new 16 [0x61, 0x61] (by decide)).decode [0x61, 0x61, 0x61] = _ :=
    decode_frame hfind (by decide)
  cases hearly.symm.trans hdecode

end DelimiterBasedFrameDecoder

end RsNetty

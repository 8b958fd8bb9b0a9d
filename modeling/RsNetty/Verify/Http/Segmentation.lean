import RsNetty.Theory.Segmentation
import RsNetty.Verify.Http.Request

/-!
# Requests and the cutting of their stream

While the blank line behind a head is incomplete the header limit is compared with the length of
the buffer, and once it is there with the length of the head. The two differ by up to three bytes,
so a head at the limit may be refused when a chunk ends inside its blank line. Nothing else about a
request depends on the cutting.
-/

namespace RsNetty.Http
open EStateM Segmentation

/-- The buffer ends inside the blank line of a head within the limit, and is itself over the limit.
`r` is the rest of the stream. -/
def CutInBlankLine (maxHeaderLen : Nat) (b r : Bytes) (headerEnd : Nat) : Prop :=
  findHttpHeaderEnd b = none ∧ maxHeaderLen < b.length ∧
    findHttpHeaderEnd (b ++ r) = some headerEnd ∧ headerEnd ≤ maxHeaderLen

/-- How a decoder in the state `s` treats a head: without a blank line it waits until the buffer is
over the limit, it refuses a head over the limit, and a head within it is decided on for good. -/
structure HeadLimited (dec : Decoder Fault σ UInt8 ι) (s : σ) (maxHeaderLen : Nat) : Prop where
  short : findHttpHeaderEnd b = none → b.length ≤ maxHeaderLen → dec (s, b) = .ok none (s, b)
  long : findHttpHeaderEnd b = none → maxHeaderLen < b.length → ∃ e st, dec (s, b) = .error e st
  tooLong : findHttpHeaderEnd b = some headerEnd → maxHeaderLen < headerEnd →
    ∃ e st, dec (s, b) = .error e st
  found : findHttpHeaderEnd b = some headerEnd → headerEnd ≤ maxHeaderLen →
    ∀ r, StableAt dec (fun _ _ => True) s b r

namespace HeadLimited

variable {dec : Decoder Fault σ UInt8 ι} {s : σ}

theorem nil (h : HeadLimited dec s maxHeaderLen) : dec (s, []) = .ok none (s, []) :=
  h.short rfl (Nat.zero_le _)

theorem stableAt_of_errors {b r : Bytes} (h : ∃ e st, dec (s, b) = .error e st)
    (h' : ∃ e st, dec (s, b ++ r) = .error e st) : StableAt dec (fun _ _ => True) s b r := by
  obtain ⟨e, st, he⟩ := h
  obtain ⟨e', st', he'⟩ := h'
  rw [StableAt, he]
  exact ⟨e', st', he', trivial⟩

/-- Only a buffer that ends inside a blank line is not decided on for good. -/
theorem stableAt_or_cut (h : HeadLimited dec s maxHeaderLen) (b r : Bytes) :
    StableAt dec (fun _ _ => True) s b r ∨
      ∃ headerEnd, CutInBlankLine maxHeaderLen b r headerEnd := by
  cases hb : findHttpHeaderEnd b with
  | some headerEnd =>
    left
    by_cases hmax : headerEnd ≤ maxHeaderLen
    · exact h.found hb hmax r
    · have hmax := Nat.lt_of_not_le hmax
      exact stableAt_of_errors (h.tooLong hb hmax)
        (h.tooLong (Window.find_append_of_eq_some hb r) hmax)
  | none =>
    by_cases hlen : b.length ≤ maxHeaderLen
    · left
      rw [StableAt, h.short hb hlen]
      exact ⟨Nat.le_refl _, rfl⟩
    · have hlen := Nat.lt_of_not_le hlen
      cases hbr : findHttpHeaderEnd (b ++ r) with
      | none =>
        left
        refine stableAt_of_errors (h.long hb hlen) (h.long hbr ?_)
        rw [List.length_append]
        omega
      | some headerEnd =>
        by_cases hmax : headerEnd ≤ maxHeaderLen
        · exact .inr ⟨headerEnd, hb, hlen, hbr, hmax⟩
        · exact .inl (stableAt_of_errors (h.long hb hlen) (h.tooLong hbr (Nat.lt_of_not_le hmax)))

/-- A call gives up early exactly when its buffer ends inside a blank line and the whole head would
have been taken. -/
theorem breaksAt_iff (h : HeadLimited dec s maxHeaderLen) (b r : Bytes) :
    BreaksAt dec s b r ↔
      ∃ headerEnd, CutInBlankLine maxHeaderLen b r headerEnd ∧
        ¬∃ e st, dec (s, b ++ r) = .error e st := by
  constructor
  · intro hbreaks
    rcases h.stableAt_or_cut b r with hst | ⟨headerEnd, hcut⟩
    · exact absurd hbreaks hst.not_breaksAt
    · refine ⟨headerEnd, hcut, ?_⟩
      rintro ⟨e, st, he⟩
      obtain ⟨-, o, st', hok⟩ := hbreaks
      cases hok.symm.trans he
  · rintro ⟨headerEnd, ⟨hb, hlen, -, -⟩, hok⟩
    refine ⟨h.long hb hlen, ?_⟩
    cases hd : dec (s, b ++ r) with
    | ok o st => exact ⟨o, st, rfl⟩
    | error e st => exact absurd ⟨e, st, hd⟩ hok

theorem stable_or_breaks (h : HeadLimited dec s maxHeaderLen) (b r : Bytes) :
    StableAt dec (fun _ _ => True) s b r ∨ BreaksAt dec s b r := by
  rcases h.stableAt_or_cut b r with hst | ⟨headerEnd, hcut⟩
  · exact .inl hst
  · by_cases he : ∃ e st, dec (s, b ++ r) = .error e st
    · exact .inl (stableAt_of_errors (h.long hcut.1 hcut.2.1) he)
    · exact .inr ((h.breaksAt_iff b r).2 ⟨headerEnd, hcut, he⟩)

end HeadLimited

/-- The request is refused on its own account: its head does not parse, its fields ask for no body
framing, or its body is malformed or too long. -/
inductive RequestRefused (options : HttpDecodeOptions) (src : BytesMut) (headerEnd : Nat) : Prop
  | head : readHead src headerEnd = .error e → RequestRefused options src headerEnd
  | framing : readHead src headerEnd = .ok (method, target, version, headers) →
      requestBodyKind headers options.allowChunked = .error e →
      RequestRefused options src headerEnd
  | body : readHead src headerEnd = .ok (method, target, version, headers) →
      requestBodyKind headers options.allowChunked = .ok kind →
      requestExtent options src headerEnd kind = .error e →
      RequestRefused options src headerEnd

theorem requestOutcome_eq_error (options : HttpDecodeOptions) (src : BytesMut) (headerEnd : Nat) :
    (∃ e, requestOutcome options src headerEnd = .error e) ↔
      RequestRefused options src headerEnd := by
  constructor
  · rintro ⟨e, h⟩
    rw [requestOutcome] at h
    cases hhead : readHead src headerEnd with
    | error e => exact .head hhead
    | ok head =>
      obtain ⟨method, target, version, headers⟩ := head
      rw [hhead, Except.ok_bind] at h
      cases hkind : requestBodyKind headers options.allowChunked with
      | error e => exact .framing hhead hkind
      | ok kind =>
        simp only [hkind, Except.ok_bind] at h
        cases hextent : requestExtent options src headerEnd kind with
        | error e => exact .body hhead hkind hextent
        | ok extent =>
          rw [hextent] at h
          cases h
  · intro h
    cases h with
    | head hhead => exact ⟨_, by rw [requestOutcome, hhead, Except.error_bind]⟩
    | framing hhead hkind =>
      simp only [requestOutcome, hhead, hkind, Except.ok_bind]
      exact ⟨_, rfl⟩
    | body hhead hkind hextent =>
      simp only [requestOutcome, hhead, hkind, hextent, Except.ok_bind]
      exact ⟨_, rfl⟩

/-- A call on a buffer with a complete head is stable. -/
theorem decodeHttpRequest_stable {options : HttpDecodeOptions} {b : BytesMut}
    (hfind : findHttpHeaderEnd b = some headerEnd) (hmax : headerEnd ≤ options.maxHeaderLen)
    (r : BytesMut) : StableCall (decodeHttpRequest options) Eq b r := by
  have hle := findHttpHeaderEnd_le hfind
  have hb := decodeHttpRequest_found hfind hmax
  have hbr := decodeHttpRequest_found (Window.find_append_of_eq_some hfind r) hmax
  have hmore : requestOutcome options b headerEnd = .ok none ∨ _ := requestOutcome_append hle r
  cases houtcome : requestOutcome options b headerEnd with
  | error e =>
    rw [houtcome] at hb hmore
    rw [hmore.resolve_left (fun h => nomatch h)] at hbr
    exact .error hb hbr rfl
  | ok extent =>
    rw [houtcome] at hb hmore
    cases extent with
    | none => exact .none hb
    | some extent =>
      obtain ⟨totalLen, request⟩ := extent
      rw [hmore.resolve_left (fun h => nomatch h)] at hbr
      obtain ⟨-, kind, -, hextent⟩ := requestOutcome_eq_some houtcome
      have hbounds := requestExtent_bounds hle hextent
      refine .item hb (by rw [List.length_drop]; omega) ?_
      rw [← List.drop_append_of_le_length hbounds.2]
      exact hbr

/-- A request that the decoder takes as a whole, with a head so short that the buffer is within the
limit for as long as the blank line is incomplete. -/
structure WireRequest (options : HttpDecodeOptions) where
  bytes : Bytes
  request : HttpRequest
  headerEnd : Nat
  found : findHttpHeaderEnd bytes = some headerEnd
  short : headerEnd + 4 ≤ options.maxHeaderLen
  decoded : decodeHttpRequest options bytes = .ok (some request) []

namespace WireRequest
variable {options : HttpDecodeOptions}

theorem whole_stable (q : WireRequest options) (r : Bytes) :
    StableCall (decodeHttpRequest options) Eq q.bytes r :=
  decodeHttpRequest_stable q.found (Nat.le_trans (Nat.le_add_right _ _) q.short) r

/-- The cut behind a part of the request does not matter. -/
theorem part_stable (q : WireRequest options) (hb : b ++ r = q.bytes) :
    StableCall (decodeHttpRequest options) Eq b r := by
  have hfound := q.found
  rw [← hb] at hfound
  cases hfind : findHttpHeaderEnd b with
  | none =>
    have hlt := Window.lt_of_find_append (List.cons_ne_nil _ _) hfind hfound
    have hlen : b.length ≤ options.maxHeaderLen := Nat.le_trans (Nat.le_of_lt hlt) q.short
    exact .none ((decodeHttpRequest_none hfind).trans (if_neg (Nat.not_lt.2 hlen)))
  | some headerEnd =>
    cases (Window.find_append_of_eq_some hfind r).symm.trans hfound
    exact decodeHttpRequest_stable hfind (Nat.le_trans (Nat.le_add_right _ _) q.short) r

theorem awaited (q : WireRequest options) (hb : b ++ r = q.bytes) (hr : r ≠ []) :
    decodeHttpRequest options b = .ok none b :=
  (q.part_stable hb).awaited (by rw [hb, q.decoded]) hr

theorem taken (q : WireRequest options) (r : Bytes) :
    decodeHttpRequest options (q.bytes ++ r) = .ok (some q.request) r :=
  (q.whole_stable r).taken q.decoded

theorem bytes_ne_nil (q : WireRequest options) : q.bytes ≠ [] :=
  List.length_pos_iff.1 ((q.whole_stable []).length_lt q.decoded)

end WireRequest

namespace HttpCodec

theorem decode_stable {codec : HttpCodec} {b : BytesMut}
    (hfind : findHttpHeaderEnd b = some headerEnd) (hmax : headerEnd ≤ codec.maxHeaderLen)
    (r : BytesMut) : StableCall codec.decode Eq b r :=
  decodeHttpRequest_stable hfind hmax r

theorem headLimited (codec : HttpCodec) :
    HeadLimited (stateless decode) codec codec.maxHeaderLen where
  short hb hlen :=
    stateless_ok ((decodeHttpRequest_none hb).trans (if_neg (Nat.not_lt.2 hlen)))
  long hb hlen := ⟨_, _, stateless_error ((decodeHttpRequest_none hb).trans (if_pos hlen))⟩
  tooLong hb hmax := ⟨_, _, stateless_error (decodeHttpRequest_tooLong hb hmax)⟩
  found hb hmax r := (decode_stable hb hmax r).stateless.mono fun _ _ _ => trivial

/-- A head within the limit leads to an error exactly when the request is refused. -/
theorem error_iff {codec : HttpCodec} (hfind : findHttpHeaderEnd src = some headerEnd)
    (hmax : headerEnd ≤ codec.maxHeaderLen) :
    (∃ e st, stateless decode (codec, src) = .error e st) ↔
      RequestRefused codec.options src headerEnd := by
  have hdecode : codec.decode src = _ := decodeHttpRequest_found hfind hmax
  rw [← requestOutcome_eq_error]
  rcases houtcome : requestOutcome codec.options src headerEnd with e | _ | ⟨len, request⟩
  · rw [houtcome] at hdecode
    exact iff_of_true ⟨_, _, stateless_error hdecode⟩ ⟨e, rfl⟩
  · rw [houtcome] at hdecode
    refine iff_of_false ?_ (fun ⟨e, h⟩ => nomatch h)
    rintro ⟨e, st, h⟩
    cases h.symm.trans (stateless_ok hdecode)
  · rw [houtcome] at hdecode
    refine iff_of_false ?_ (fun ⟨e, h⟩ => nomatch h)
    rintro ⟨e, st, h⟩
    cases h.symm.trans (stateless_ok hdecode)

theorem breaksAt_iff (codec : HttpCodec) (b r : Bytes) :
    BreaksAt (stateless decode) codec b r ↔
      ∃ headerEnd, CutInBlankLine codec.maxHeaderLen b r headerEnd ∧
        ¬RequestRefused codec.options (b ++ r) headerEnd := by
  rw [(headLimited codec).breaksAt_iff]
  constructor
  · rintro ⟨headerEnd, hcut, herror⟩
    exact ⟨headerEnd, hcut, fun h => herror ((error_iff hcut.2.2.1 hcut.2.2.2).2 h)⟩
  · rintro ⟨headerEnd, hcut, hrefused⟩
    exact ⟨headerEnd, hcut, fun h => hrefused ((error_iff hcut.2.2.1 hcut.2.2.2).1 h)⟩

/-- Cutting a stream into chunks does not matter exactly when no chunk ends inside the blank line
of a head that is within the limit while the buffer is over it, save for requests that are refused
in any case. -/
theorem feed_sameOutcome_iff (codec : HttpCodec) (chunks : List Bytes) :
    SameOutcome (feed (stateless decode) codec [] chunks)
        (feed (stateless decode) codec [] [chunks.flatten]) ↔
      ∀ b cs headerEnd, FeedCalls (stateless decode) codec [] chunks codec b cs →
        CutInBlankLine codec.maxHeaderLen b cs.flatten headerEnd →
        RequestRefused codec.options (b ++ cs.flatten) headerEnd := by
  rw [Segmentation.feed_sameOutcome_iff (fun codec => (headLimited codec).stable_or_breaks)
    (headLimited codec).nil]
  constructor
  · intro h b cs headerEnd hcall hcut
    by_contra hrefused
    exact h codec b cs hcall ((breaksAt_iff codec b _).2 ⟨headerEnd, hcut, hrefused⟩)
  · intro h codec' b cs hcall hbreaks
    obtain ⟨c, cs', -, hcalls⟩ := id hcall
    cases hcalls.stateless_eq
    obtain ⟨headerEnd, hcut, hrefused⟩ := (breaksAt_iff codec b _).1 hbreaks
    exact hrefused (h b cs headerEnd hcall hcut)

end HttpCodec

end RsNetty.Http

import RsNetty.Codec.Http

/-!
# What the request decoder computes

A request whose head is complete is read off the buffer by one pure function of it,
`requestOutcome` (`decodeHttpRequest_found`). What that function decides, it decides in the same
way when more input follows (`requestOutcome_append`).
-/

namespace RsNetty.Http
open EStateM Str

/-! ## The head -/

theorem parseHeaderFields_append_blank (lines : List (List Char)) :
    parseHeaderFields (lines ++ [[], []]) = parseHeaderFields lines := by
  induction lines with
  | nil => rfl
  | cons line lines ih => rw [List.cons_append, parseHeaderFields, parseHeaderFields, ih]

/-- The blank line behind the head does not matter to its parser. -/
theorem parseHttpHead_append_blank (header : List Char) :
    parseHttpHead (header ++ "\r\n\r\n".toList) = parseHttpHead header := by
  have hsplit : splitCrlf (header ++ "\r\n\r\n".toList) = splitCrlf header ++ [[], []] :=
    splitCrlf_append header ['\r', '\n']
  rw [parseHttpHead, parseHttpHead, hsplit]
  cases h : splitCrlf header with
  | nil => exact absurd h (splitCrlf_ne_nil header)
  | cons requestLine lines => simp only [List.cons_append, parseHeaderFields_append_blank]

/-- The request line and the fields of the head that ends at `headerEnd`. -/
def readHead (src : BytesMut) (headerEnd : Nat) :
    Result (List Char × List Char × List Char × Headers) := do
  parseHttpHead (← strFromUtf8 "http request header is not utf-8" (← slice src 0 (headerEnd + 4)))

theorem strFromUtf8_eq_ok {what : String} {bytes : Bytes} (h : strFromUtf8 what bytes = .ok cs) :
    ∃ s, fromUtf8 bytes = .ok s ∧ s.toList = cs := by
  rw [strFromUtf8] at h
  cases hs : fromUtf8 bytes with
  | error e =>
    rw [hs] at h
    cases h
  | ok s =>
    rw [hs] at h
    exact ⟨s, rfl, Except.ok.inj h⟩

/-- The blank line stands behind the head. -/
theorem take_of_findHttpHeaderEnd {src : BytesMut} (h : findHttpHeaderEnd src = some headerEnd) :
    src.take (headerEnd + 4) = src.take headerEnd ++ (crlf ++ crlf) := by
  obtain ⟨rest, hrest⟩ := Window.prefix_drop_of_find h
  rw [List.take_add, ← hrest]
  rfl

theorem findHttpHeaderEnd_le {src : BytesMut} (h : findHttpHeaderEnd src = some headerEnd) :
    headerEnd + 4 ≤ src.length :=
  Window.find_add_length_le h

/-- Once the request is taken its head is parsed again, with the same result. -/
theorem parseHttpRequestWithBody_eq {src : BytesMut}
    (hfind : findHttpHeaderEnd src = some headerEnd)
    (hhead : readHead src headerEnd = .ok (method, target, version, headers))
    (hlen : headerEnd + 4 ≤ len) (body : Bytes) (trailers : Headers) :
    parseHttpRequestWithBody (src.take len) headerEnd body trailers =
      .ok ⟨method, target, version, headers, body, trailers⟩ := by
  have hle := findHttpHeaderEnd_le hfind
  rw [readHead, slice_ok ⟨Nat.zero_le _, hle⟩, Except.ok_bind, List.drop_zero, Nat.sub_zero,
    take_of_findHttpHeaderEnd hfind] at hhead
  obtain ⟨text, htext, hhead⟩ := Except.bind_eq_ok.1 hhead
  obtain ⟨s, hs, rfl⟩ := strFromUtf8_eq_ok htext
  obtain ⟨t, ht, hst⟩ := fromUtf8_append_ascii (by decide +kernel) hs
  have hblank : (crlf ++ crlf).map (fun b => Char.ofNat b.toNat) = "\r\n\r\n".toList := by decide
  rw [hst, hblank, parseHttpHead_append_blank] at hhead
  have hslice : slice (src.take len) 0 headerEnd = .ok (src.take headerEnd) := by
    rw [slice_ok ⟨Nat.zero_le _, by rw [List.length_take]; omega⟩, List.drop_zero, Nat.sub_zero,
      List.take_take, Nat.min_eq_left (by omega)]
  rw [parseHttpRequestWithBody, hslice, Except.ok_bind, strFromUtf8, ht]
  simp only [Except.ok_bind, hhead]
  rfl

/-! ## The chunked body -/

theorem findCrlf_eq_some {src : BytesMut} (h : findCrlf src pos = .ok (some k)) :
    pos ≤ k ∧ k + 2 ≤ src.length := by
  obtain ⟨bytes, hbytes, h⟩ := Except.bind_eq_ok.1 h
  obtain ⟨i, hi, rfl⟩ := Option.map_eq_some_iff.1 (Except.ok.inj h)
  rw [sliceFrom, slice] at hbytes
  split at hbytes
  case isFalse => cases hbytes
  case isTrue hle =>
    cases hbytes
    have := Window.find_add_length_le hi
    rw [List.length_take, List.length_drop] at this
    have hcrlf : crlf.length = 2 := rfl
    omega

theorem findHttpHeaderEndFrom_eq_some {src : BytesMut}
    (h : findHttpHeaderEndFrom src pos = .ok (some k)) : pos ≤ k ∧ k + 4 ≤ src.length := by
  obtain ⟨bytes, hbytes, h⟩ := Except.bind_eq_ok.1 h
  obtain ⟨i, hi, rfl⟩ := Option.map_eq_some_iff.1 (Except.ok.inj h)
  rw [sliceFrom, slice] at hbytes
  split at hbytes
  case isFalse => cases hbytes
  case isTrue hle =>
    cases hbytes
    have := findHttpHeaderEnd_le hi
    rw [List.length_take, List.length_drop] at this
    omega

theorem lastChunk_last (h : lastChunk src preserveTrailers pos = .ok (.last totalLen trailers)) :
    pos < totalLen ∧ totalLen ≤ src.length := by
  unfold lastChunk at h
  split at h
  case isTrue hc =>
    cases h
    exact ⟨by omega, hc.1⟩
  case isFalse =>
    obtain ⟨trailerEnd, hfind, h⟩ := Except.bind_eq_ok.1 h
    cases trailerEnd with
    | none => cases h
    | some trailerEnd =>
      obtain ⟨_, -, h⟩ := Except.bind_eq_ok.1 h
      obtain ⟨_, -, h⟩ := Except.bind_eq_ok.1 h
      cases h
      have := findHttpHeaderEndFrom_eq_some hfind
      exact ⟨by omega, this.2⟩

theorem chunkStep_last
    (h : chunkStep src maxBodyLen preserveTrailers pos bodyLen = .ok (.last totalLen trailers)) :
    pos < totalLen ∧ totalLen ≤ src.length := by
  obtain ⟨sizeLineEnd, hfind, h⟩ := Except.bind_eq_ok.1 h
  cases sizeLineEnd with
  | none => cases h
  | some sizeLineEnd =>
    have hle := findCrlf_eq_some hfind
    obtain ⟨_, -, h⟩ := Except.bind_eq_ok.1 h
    obtain ⟨_, -, h⟩ := Except.bind_eq_ok.1 h
    obtain ⟨size, -, h⟩ := Except.bind_eq_ok.1 h
    split at h
    case isTrue =>
      have := lastChunk_last h
      exact ⟨by omega, this.2⟩
    case isFalse =>
      obtain ⟨_, -, h⟩ := Except.bind_eq_ok.1 h
      obtain ⟨_, -, h⟩ := Except.bind_eq_ok.1 h
      obtain ⟨_, -, h⟩ := Except.bind_eq_ok.1 h
      split at h
      case isTrue => cases h
      case isFalse =>
        obtain ⟨_, -, h⟩ := Except.bind_eq_ok.1 h
        obtain ⟨_, -, h⟩ := Except.bind_eq_ok.1 h
        obtain ⟨_, -, h⟩ := Except.bind_eq_ok.1 h
        cases h

theorem decodeChunkedBodyLoop_eq (src : BytesMut) (maxBodyLen : Nat) (preserveTrailers : Bool)
    (pos : Nat) (body : Bytes) :
    decodeChunkedBodyLoop src maxBodyLen preserveTrailers pos body =
      match chunkStep src maxBodyLen preserveTrailers pos body.length with
      | .error e => .error e
      | .ok .needMore => .ok none
      | .ok (.last totalLen trailers) => .ok (some (totalLen, body, trailers))
      | .ok (.chunk pos' data) =>
        decodeChunkedBodyLoop src maxBodyLen preserveTrailers pos' (body ++ data) := by
  rw [decodeChunkedBodyLoop]
  split <;> simp only [*]

/-- A complete body ends behind its start and inside the buffer. -/
theorem decodeChunkedBodyLoop_bounds
    (h : decodeChunkedBodyLoop src maxBodyLen preserveTrailers pos body =
      .ok (some (totalLen, data, trailers))) : pos < totalLen ∧ totalLen ≤ src.length := by
  rw [decodeChunkedBodyLoop_eq] at h
  match hstep : chunkStep src maxBodyLen preserveTrailers pos body.length with
  | .error e => simp only [hstep, reduceCtorEq] at h
  | .ok .needMore => simp [hstep] at h
  | .ok (.last totalLen' trailers') =>
    simp only [hstep] at h
    cases h
    exact chunkStep_last hstep
  | .ok (.chunk pos' data') =>
    have hlt := chunkStep_chunk hstep
    simp only [hstep] at h
    have := decodeChunkedBodyLoop_bounds h
    exact ⟨by omega, this.2⟩
termination_by src.length - pos

/-! ## The whole request -/

/-- Where the request ends, its body and its trailers; nothing while it is incomplete. -/
def requestExtent (options : HttpDecodeOptions) (src : BytesMut) (headerEnd : Nat) :
    BodyKind → Result (Option (Nat × Bytes × Headers))
  | .none => .ok (some (headerEnd + 4, [], []))
  | .contentLength contentLen => do
    failIf (contentLen > options.maxBodyLen) (.err (.frameTooLarge contentLen options.maxBodyLen))
    let totalLen ← okOr ((checkedAdd headerEnd 4).bind (checkedAdd · contentLen))
      (.decode "http request length overflow")
    return if src.length < totalLen then none
      else some (totalLen, (src.drop (headerEnd + 4)).take contentLen, [])
  | .chunked =>
    decodeChunkedBody src (headerEnd + 4) options.maxBodyLen options.preserveTrailers

/-- The request whose head ends at `headerEnd`, and its length. -/
def requestOutcome (options : HttpDecodeOptions) (src : BytesMut) (headerEnd : Nat) :
    Result (Option (Nat × HttpRequest)) := do
  let (method, target, version, headers) ← readHead src headerEnd
  let bodyKind ← requestBodyKind headers options.allowChunked
  let extent ← requestExtent options src headerEnd bodyKind
  return extent.map fun (totalLen, body, trailers) =>
    (totalLen, ⟨method, target, version, headers, body, trailers⟩)

theorem requestExtent_bounds (hle : headerEnd + 4 ≤ src.length)
    (h : requestExtent options src headerEnd bodyKind = .ok (some (totalLen, body, trailers))) :
    headerEnd + 4 ≤ totalLen ∧ totalLen ≤ src.length := by
  cases bodyKind with
  | none =>
    cases h
    exact ⟨Nat.le_refl _, hle⟩
  | contentLength contentLen =>
    obtain ⟨_, -, h⟩ := Except.bind_eq_ok.1 h
    obtain ⟨totalLen', htotal, h⟩ := Except.bind_eq_ok.1 h
    obtain ⟨len, hlen, htotal⟩ := Option.bind_eq_some_iff.1 (okOr_eq_ok.1 htotal)
    obtain ⟨-, rfl⟩ := checkedAdd_eq_some.1 hlen
    obtain ⟨-, rfl⟩ := checkedAdd_eq_some.1 htotal
    have h := Except.ok.inj h
    split at h
    case isTrue => cases h
    case isFalse hlen =>
      cases h
      exact ⟨Nat.le_add_right _ _, Nat.le_of_not_lt hlen⟩
  | chunked =>
    have := decodeChunkedBodyLoop_bounds h
    exact ⟨Nat.le_of_lt this.1, this.2⟩

/-- Taking a request off the buffer, whatever its framing. -/
theorem takeRequest_eq {options : HttpDecodeOptions} {src : BytesMut}
    (hfind : findHttpHeaderEnd src = some headerEnd)
    (hhead : readHead src headerEnd = .ok (method, target, version, headers)) (kind : BodyKind) :
    takeRequest options headerEnd kind src =
      match requestExtent options src headerEnd kind with
      | .error e => .error e src
      | .ok none => .ok none src
      | .ok (some (totalLen, body, trailers)) =>
        .ok (some ⟨method, target, version, headers, body, trailers⟩) (src.drop totalLen) := by
  have hle := findHttpHeaderEnd_le hfind
  cases kind with
  | none =>
    rw [takeRequest, bind_of_ok (splitTo_ok hle), parseHttpRequest,
      sliceFrom_ok (by rw [List.length_take]; omega), Except.ok_bind,
      List.drop_take, Nat.sub_self, List.take_zero,
      parseHttpRequestWithBody_eq hfind hhead (Nat.le_refl _)]
    rfl
  | contentLength contentLen =>
    rw [takeRequest, requestExtent]
    cases failIf (contentLen > options.maxBodyLen)
      (.err (.frameTooLarge contentLen options.maxBodyLen)) with
    | error e => rfl
    | ok _ =>
      rw [Exec.call_ok, Except.ok_bind]
      cases htotal : (checkedAdd headerEnd 4).bind (checkedAdd · contentLen) with
      | none => rfl
      | some totalLen =>
        obtain ⟨len, hlen, htotal⟩ := Option.bind_eq_some_iff.1 htotal
        obtain ⟨-, rfl⟩ := checkedAdd_eq_some.1 hlen
        obtain ⟨-, rfl⟩ := checkedAdd_eq_some.1 htotal
        rw [okOr, Exec.call_ok, Except.ok_bind, get_bind]
        by_cases hshort : src.length < headerEnd + 4 + contentLen
        · rw [if_pos hshort, if_pos hshort]
          rfl
        · rw [if_neg hshort, if_neg hshort, bind_of_ok (splitTo_ok (Nat.le_of_not_lt hshort)),
            parseHttpRequest, sliceFrom_ok (by rw [List.length_take]; omega), Except.ok_bind,
            List.drop_take, Nat.add_sub_cancel_left,
            parseHttpRequestWithBody_eq hfind hhead (Nat.le_add_right _ _)]
          rfl
  | chunked =>
    rw [takeRequest, requestExtent, get_bind]
    cases hbody : decodeChunkedBody src (headerEnd + 4) options.maxBodyLen
        options.preserveTrailers with
    | error e => rfl
    | ok extent =>
      rw [Exec.call_ok]
      cases extent with
      | none => rfl
      | some extent =>
        obtain ⟨totalLen, body, trailers⟩ := extent
        have hbounds := decodeChunkedBodyLoop_bounds hbody
        simp only
        rw [bind_of_ok (splitTo_ok hbounds.2),
          parseHttpRequestWithBody_eq hfind hhead (Nat.le_of_lt hbounds.1)]
        rfl

theorem headBodyKind_eq (options : HttpDecodeOptions) (src : BytesMut) (headerEnd : Nat) :
    headBodyKind options src headerEnd =
      (readHead src headerEnd >>= fun (_, _, _, headers) =>
        requestBodyKind headers options.allowChunked) := by
  rw [headBodyKind, readHead]
  cases slice src 0 (headerEnd + 4) with
  | error => rfl
  | ok bytes =>
    rw [Except.ok_bind, Except.ok_bind]
    cases strFromUtf8 "http request header is not utf-8" bytes <;> rfl

/-- The decoder on a buffer that holds a complete head. -/
theorem decodeHttpRequest_found {options : HttpDecodeOptions} {src : BytesMut}
    (hfind : findHttpHeaderEnd src = some headerEnd) (hmax : headerEnd ≤ options.maxHeaderLen) :
    decodeHttpRequest options src =
      match requestOutcome options src headerEnd with
      | .error e => .error e src
      | .ok none => .ok none src
      | .ok (some (totalLen, request)) => .ok (some request) (src.drop totalLen) := by
  rw [decodeHttpRequest, get_bind, hfind]
  simp only [failIf_eq_ok.2 (Nat.not_lt.2 hmax), Exec.call_ok]
  rw [headBodyKind_eq, requestOutcome]
  cases hhead : readHead src headerEnd with
  | error e => rfl
  | ok head =>
    obtain ⟨method, target, version, headers⟩ := head
    rw [Except.ok_bind, Except.ok_bind]
    simp only
    cases requestBodyKind headers options.allowChunked with
    | error e => rfl
    | ok kind =>
      rw [Exec.call_ok, Except.ok_bind, takeRequest_eq hfind hhead]
      rcases requestExtent options src headerEnd kind with e | _ | ⟨totalLen, body, trailers⟩ <;> rfl

theorem decodeHttpRequest_none {options : HttpDecodeOptions} {src : BytesMut}
    (hfind : findHttpHeaderEnd src = none) :
    decodeHttpRequest options src =
      if src.length > options.maxHeaderLen then
        .error (.err (.frameTooLarge src.length options.maxHeaderLen)) src
      else .ok none src := by
  rw [decodeHttpRequest, get_bind, hfind]
  by_cases hlen : src.length > options.maxHeaderLen
  · rw [if_pos hlen, failIf, if_pos hlen]
    rfl
  · rw [if_neg hlen, failIf, if_neg hlen]
    rfl

theorem decodeHttpRequest_tooLong {options : HttpDecodeOptions} {src : BytesMut}
    (hfind : findHttpHeaderEnd src = some headerEnd) (hmax : headerEnd > options.maxHeaderLen) :
    decodeHttpRequest options src =
      .error (.err (.frameTooLarge headerEnd options.maxHeaderLen)) src := by
  rw [decodeHttpRequest, get_bind, hfind]
  simp only [failIf, if_pos hmax]
  rfl

theorem requestOutcome_eq_some {options : HttpDecodeOptions}
    (h : requestOutcome options src headerEnd = .ok (some (totalLen, request))) :
    readHead src headerEnd =
      .ok (request.method, request.target, request.version, request.headers) ∧
    ∃ kind, requestBodyKind request.headers options.allowChunked = .ok kind ∧
      requestExtent options src headerEnd kind =
        .ok (some (totalLen, request.body, request.trailers)) := by
  obtain ⟨⟨method, target, version, headers⟩, hhead, h⟩ := Except.bind_eq_ok.1 h
  obtain ⟨kind, hkind, h⟩ := Except.bind_eq_ok.1 h
  obtain ⟨extent, hextent, h⟩ := Except.bind_eq_ok.1 h
  obtain ⟨⟨totalLen', body, trailers⟩, rfl, h⟩ := Option.map_eq_some_iff.1 (Except.ok.inj h)
  cases h
  exact ⟨hhead, kind, hkind, hextent⟩

theorem decodeHttpRequest_eq_some {options : HttpDecodeOptions}
    (h : decodeHttpRequest options src = .ok (some request) rest) :
    ∃ headerEnd totalLen, findHttpHeaderEnd src = some headerEnd ∧
      headerEnd ≤ options.maxHeaderLen ∧
      requestOutcome options src headerEnd = .ok (some (totalLen, request)) ∧
      rest = src.drop totalLen := by
  cases hfind : findHttpHeaderEnd src with
  | none =>
    rw [decodeHttpRequest_none hfind] at h
    split at h <;> cases h
  | some headerEnd =>
    by_cases hmax : headerEnd ≤ options.maxHeaderLen
    · rw [decodeHttpRequest_found hfind hmax] at h
      split at h
      case h_1 => cases h
      case h_2 => cases h
      case h_3 totalLen request' houtcome =>
        cases h
        exact ⟨headerEnd, totalLen, rfl, hmax, houtcome, rfl⟩
    · rw [decodeHttpRequest_tooLong hfind (Nat.lt_of_not_le hmax)] at h
      cases h

/-- Whatever is not a whole request leaves the buffer as it was. -/
theorem decodeHttpRequest_unchanged (options : HttpDecodeOptions) (src : BytesMut) :
    (∀ e rest, decodeHttpRequest options src = .error e rest → rest = src) ∧
      ∀ rest, decodeHttpRequest options src = .ok none rest → rest = src := by
  cases hfind : findHttpHeaderEnd src with
  | none =>
    rw [decodeHttpRequest_none hfind]
    split
    · exact ⟨fun _ _ h => (EStateM.Result.error.inj h).2.symm, fun _ h => nomatch h⟩
    · exact ⟨fun _ _ h => (nomatch h), fun _ h => (EStateM.Result.ok.inj h).2.symm⟩
  | some headerEnd =>
    by_cases hmax : headerEnd ≤ options.maxHeaderLen
    · rw [decodeHttpRequest_found hfind hmax]
      split
      · exact ⟨fun _ _ h => (EStateM.Result.error.inj h).2.symm, fun _ h => nomatch h⟩
      · exact ⟨fun _ _ h => (nomatch h), fun _ h => (EStateM.Result.ok.inj h).2.symm⟩
      · exact ⟨fun _ _ h => (nomatch h), fun _ h => nomatch h⟩
    · rw [decodeHttpRequest_tooLong hfind (Nat.lt_of_not_le hmax)]
      exact ⟨fun _ _ h => (EStateM.Result.error.inj h).2.symm, fun _ h => nomatch h⟩

/-- A request that is refused or incomplete stays in the buffer, and the head on which the body
framing was decided is the head of the request that is split off. -/
theorem decodeHttpRequest_atomic (options : HttpDecodeOptions) (src : BytesMut) :
    (∀ e rest, decodeHttpRequest options src = .error e rest → rest = src) ∧
    (∀ rest, decodeHttpRequest options src = .ok none rest → rest = src) ∧
    (∀ headerEnd kind, findHttpHeaderEnd src = some headerEnd →
      headBodyKind options src headerEnd = .ok kind →
      ∃ method target version headers,
        readHead src headerEnd = .ok (method, target, version, headers) ∧
        requestBodyKind headers options.allowChunked = .ok kind ∧
        ∀ len body trailers, headerEnd + 4 ≤ len →
          parseHttpRequestWithBody (src.take len) headerEnd body trailers =
            .ok ⟨method, target, version, headers, body, trailers⟩) ∧
    ∀ request rest, decodeHttpRequest options src = .ok (some request) rest →
      ∃ headerEnd, findHttpHeaderEnd src = some headerEnd ∧
        readHead src headerEnd =
          .ok (request.method, request.target, request.version, request.headers) := by
  refine ⟨(decodeHttpRequest_unchanged options src).1, (decodeHttpRequest_unchanged options src).2,
    ?_, ?_⟩
  · intro headerEnd kind hfind hkind
    rw [headBodyKind_eq] at hkind
    obtain ⟨⟨method, target, version, headers⟩, hhead, hkind⟩ := Except.bind_eq_ok.1 hkind
    exact ⟨method, target, version, headers, hhead, hkind, fun len body trailers hlen =>
      parseHttpRequestWithBody_eq hfind hhead hlen body trailers⟩
  · intro request rest h
    obtain ⟨headerEnd, totalLen, hfind, -, houtcome, -⟩ := decodeHttpRequest_eq_some h
    exact ⟨headerEnd, hfind, (requestOutcome_eq_some houtcome).1⟩

/-! ## More input -/

theorem findCrlf_eq {b : BytesMut} (h : pos ≤ b.length) :
    findCrlf b pos = .ok ((Window.find crlf (b.drop pos)).map (pos + ·)) := by
  rw [findCrlf, sliceFrom_ok h]
  rfl

theorem findHttpHeaderEndFrom_eq {b : BytesMut} (h : pos ≤ b.length) :
    findHttpHeaderEndFrom b pos = .ok ((findHttpHeaderEnd (b.drop pos)).map (pos + ·)) := by
  rw [findHttpHeaderEndFrom, sliceFrom_ok h]
  rfl

theorem findCrlf_append {b : BytesMut} (hpos : pos ≤ b.length) (r : BytesMut)
    (h : findCrlf b pos = .ok (some k)) : findCrlf (b ++ r) pos = .ok (some k) := by
  rw [findCrlf_eq hpos] at h
  obtain ⟨i, hi, rfl⟩ := Option.map_eq_some_iff.1 (Except.ok.inj h)
  rw [findCrlf_eq (by rw [List.length_append]; omega), List.drop_append_of_le_length hpos,
    Window.find_append_of_eq_some hi]
  rfl

theorem findHttpHeaderEndFrom_append {b : BytesMut} (hpos : pos ≤ b.length) (r : BytesMut)
    (h : findHttpHeaderEndFrom b pos = .ok (some k)) :
    findHttpHeaderEndFrom (b ++ r) pos = .ok (some k) := by
  rw [findHttpHeaderEndFrom_eq hpos] at h
  obtain ⟨i, hi, rfl⟩ := Option.map_eq_some_iff.1 (Except.ok.inj h)
  rw [findHttpHeaderEndFrom_eq (by rw [List.length_append]; omega),
    List.drop_append_of_le_length hpos, findHttpHeaderEnd, Window.find_append_of_eq_some hi]
  rfl

theorem lastChunk_append {b : BytesMut} (hpos : pos ≤ b.length) (r : BytesMut) :
    lastChunk b preserveTrailers pos = .ok .needMore ∨
      lastChunk (b ++ r) preserveTrailers pos = lastChunk b preserveTrailers pos := by
  have htake (hlen : pos + 2 ≤ b.length) : ((b ++ r).drop pos).take 2 = (b.drop pos).take 2 := by
    rw [List.drop_append_of_le_length hpos,
      List.take_append_of_le_length (by rw [List.length_drop]; omega)]
  have hlong : b.length ≤ (b ++ r).length := by simp
  unfold lastChunk
  by_cases hc : b.length ≥ pos + 2 ∧ (b.drop pos).take 2 = crlf
  · right
    rw [if_pos hc, if_pos ⟨by omega, (htake hc.1).trans hc.2⟩]
  · rw [if_neg hc]
    rw [findHttpHeaderEndFrom_eq hpos, Except.ok_bind]
    cases hfind : (findHttpHeaderEnd (b.drop pos)).map (pos + ·) with
    | none => exact .inl rfl
    | some k =>
      have hk : findHttpHeaderEndFrom b pos = .ok (some k) := by
        rw [findHttpHeaderEndFrom_eq hpos, hfind]
      have hle := findHttpHeaderEndFrom_eq_some hk
      right
      rw [if_neg (fun h => hc ⟨by omega, (htake (by omega)).symm.trans h.2⟩),
        findHttpHeaderEndFrom_append hpos r hk, Except.ok_bind]
      simp only
      rw [slice_append (by omega)]

theorem dataChunk_append (b r : BytesMut) :
    dataChunk b maxBodyLen bodyLen pos size = .ok .needMore ∨
      dataChunk (b ++ r) maxBodyLen bodyLen pos size =
        dataChunk b maxBodyLen bodyLen pos size := by
  unfold dataChunk
  cases failIf (saturatingAdd bodyLen size > maxBodyLen)
    (.err (.frameTooLarge (saturatingAdd bodyLen size) maxBodyLen)) with
  | error e => exact .inr rfl
  | ok _ =>
    rw [Except.ok_bind, Except.ok_bind]
    cases hchunk : checkedAdd pos size with
    | none => exact .inr rfl
    | some chunkEnd =>
      rw [okOr, Except.ok_bind, Except.ok_bind]
      cases hcrlf : checkedAdd chunkEnd 2 with
      | none => exact .inr rfl
      | some crlfEnd =>
        rw [okOr, Except.ok_bind, Except.ok_bind]
        obtain ⟨-, rfl⟩ := checkedAdd_eq_some.1 hcrlf
        by_cases hlen : b.length < chunkEnd + 2
        · left
          rw [if_pos hlen]
          rfl
        · right
          rw [if_neg hlen, if_neg (by rw [List.length_append]; omega), slice_append (by omega),
            slice_append (by omega)]

theorem chunkStep_append {b : BytesMut} (hpos : pos ≤ b.length) (r : BytesMut) :
    chunkStep b maxBodyLen preserveTrailers pos bodyLen = .ok .needMore ∨
      chunkStep (b ++ r) maxBodyLen preserveTrailers pos bodyLen =
        chunkStep b maxBodyLen preserveTrailers pos bodyLen := by
  unfold chunkStep
  cases hfind : (Window.find crlf (b.drop pos)).map (pos + ·) with
  | none =>
    left
    rw [findCrlf_eq hpos, hfind]
    rfl
  | some k =>
    have hk : findCrlf b pos = .ok (some k) := by rw [findCrlf_eq hpos, hfind]
    have hle := findCrlf_eq_some hk
    rw [hk, findCrlf_append hpos r hk, Except.ok_bind, Except.ok_bind]
    simp only
    rw [slice_append (by omega)]
    cases slice b pos k with
    | error e => exact .inr rfl
    | ok sizeLine =>
      rw [Except.ok_bind, Except.ok_bind]
      cases strFromUtf8 "chunk size line is not utf-8" sizeLine with
      | error e => exact .inr rfl
      | ok text =>
        rw [Except.ok_bind, Except.ok_bind]
        cases parseChunkSize text with
        | error e => exact .inr rfl
        | ok size =>
          rw [Except.ok_bind, Except.ok_bind]
          by_cases hsize : size = 0
          · rw [if_pos hsize, if_pos hsize]
            exact lastChunk_append hle.2 r
          · rw [if_neg hsize, if_neg hsize]
            exact dataChunk_append b r

theorem decodeChunkedBodyLoop_append {b : BytesMut} (hpos : pos ≤ b.length) (r : BytesMut) :
    decodeChunkedBodyLoop b maxBodyLen preserveTrailers pos body = .ok none ∨
      decodeChunkedBodyLoop (b ++ r) maxBodyLen preserveTrailers pos body =
        decodeChunkedBodyLoop b maxBodyLen preserveTrailers pos body := by
  rw [decodeChunkedBodyLoop_eq, decodeChunkedBodyLoop_eq (b ++ r)]
  rcases chunkStep_append hpos r with hmore | hsame
  · left
    rw [hmore]
  · rw [hsame]
    match hstep : chunkStep b maxBodyLen preserveTrailers pos body.length with
    | .error e => exact .inr rfl
    | .ok .needMore => exact .inl rfl
    | .ok (.last totalLen trailers) => exact .inr rfl
    | .ok (.chunk pos' data) =>
      have hlt := chunkStep_chunk hstep
      exact decodeChunkedBodyLoop_append hlt.2 r
termination_by b.length - pos

theorem requestExtent_append {b : BytesMut} (hle : headerEnd + 4 ≤ b.length) (r : BytesMut) :
    requestExtent options b headerEnd kind = .ok none ∨
      requestExtent options (b ++ r) headerEnd kind = requestExtent options b headerEnd kind := by
  cases kind with
  | none => exact .inr rfl
  | contentLength contentLen =>
    rw [requestExtent, requestExtent]
    cases failIf (contentLen > options.maxBodyLen)
      (.err (.frameTooLarge contentLen options.maxBodyLen)) with
    | error e => exact .inr rfl
    | ok _ =>
      rw [Except.ok_bind, Except.ok_bind]
      cases htotal : (checkedAdd headerEnd 4).bind (checkedAdd · contentLen) with
      | none => exact .inr rfl
      | some totalLen =>
        obtain ⟨len, hlen, htotal⟩ := Option.bind_eq_some_iff.1 htotal
        obtain ⟨-, rfl⟩ := checkedAdd_eq_some.1 hlen
        obtain ⟨-, rfl⟩ := checkedAdd_eq_some.1 htotal
        rw [okOr, Except.ok_bind, Except.ok_bind]
        by_cases hshort : b.length < headerEnd + 4 + contentLen
        · left
          rw [if_pos hshort]
          rfl
        · right
          rw [if_neg hshort, if_neg (by rw [List.length_append]; omega),
            List.drop_append_of_le_length hle,
            List.take_append_of_le_length (by rw [List.length_drop]; omega)]
  | chunked => exact decodeChunkedBodyLoop_append hle r

/-- What is decided about a request stays decided when more input follows. -/
theorem requestOutcome_append {b : BytesMut} (hle : headerEnd + 4 ≤ b.length) (r : BytesMut) :
    requestOutcome options b headerEnd = .ok none ∨
      requestOutcome options (b ++ r) headerEnd = requestOutcome options b headerEnd := by
  have hhead : readHead (b ++ r) headerEnd = readHead b headerEnd := by
    rw [readHead, readHead, slice_append hle]
  rw [requestOutcome, requestOutcome, hhead]
  cases readHead b headerEnd with
  | error e => exact .inr rfl
  | ok head =>
    obtain ⟨method, target, version, headers⟩ := head
    rw [Except.ok_bind, Except.ok_bind]
    simp only
    cases requestBodyKind headers options.allowChunked with
    | error e => exact .inr rfl
    | ok kind =>
      rw [Except.ok_bind, Except.ok_bind]
      have hextent : requestExtent options b headerEnd kind = .ok none ∨ _ :=
        requestExtent_append hle r
      rcases hextent with hmore | hsame
      · left
        rw [hmore]
        rfl
      · right
        rw [hsame]

end RsNetty.Http

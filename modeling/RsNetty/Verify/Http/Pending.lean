import Mathlib.Algebra.Order.BigOperators.Group.List
import RsNetty.Verify.Http.RoundTrip

/-!
# Requests that are not complete yet

The decoder holds a request back in the buffer until it is complete. The head, a declared body and
the chunk data are limited. The chunk-size lines and the trailers are not: `pendingBounded_iff` says
for which options there is a limit to what is held back.
-/

namespace RsNetty.Http
open EStateM Str

/-! ## Lengths -/

/-- The parts of a string and the separators between them make up its length. -/
theorem length_splitOnP (p : Char → Bool) (s : List Char) :
    ((s.splitOnP p).map (·.length + 1)).sum = s.length + 1 := by
  induction s with
  | nil => rfl
  | cons c s ih =>
    rw [List.splitOnP_cons_eq_if_modifyHead]
    split
    · rw [List.map_cons, List.sum_cons, ih, List.length_nil, List.length_cons]
      omega
    · cases hs : s.splitOnP p with
      | nil => exact absurd hs (List.splitOnP_ne_nil p s)
      | cons t ts =>
        rw [hs, List.map_cons, List.sum_cons] at ih
        rw [List.modifyHead_cons, List.map_cons, List.sum_cons, List.length_cons, List.length_cons]
        omega

theorem length_splitCrlf (s : List Char) :
    ((splitCrlf s).map (·.length + 2)).sum = s.length + 2 := by
  induction s using splitCrlf.induct with
  | case1 s ih =>
    rw [splitCrlf, List.map_cons, List.sum_cons, ih, List.length_nil, List.length_cons,
      List.length_cons]
    omega
  | case2 c s hne ih =>
    rw [splitCrlf.eq_2 _ _ hne]
    cases hs : splitCrlf s with
    | nil => exact absurd hs (splitCrlf_ne_nil s)
    | cons t ts =>
      rw [hs, List.map_cons, List.sum_cons] at ih
      rw [List.modifyHead_cons, List.map_cons, List.sum_cons, List.length_cons, List.length_cons]
      omega
  | case3 => rfl

theorem length_trim_le (s : List Char) : (trim s).length ≤ s.length :=
  Nat.le_trans (List.rdropWhile_prefix isWhitespace _).length_le
    (List.dropWhile_suffix isWhitespace).length_le

theorem length_splitOnce {s name value : List Char} (h : splitOnce ':' s = some (name, value)) :
    name.length + 1 + value.length = s.length := by
  induction s generalizing name with
  | nil => cases h
  | cons c s ih =>
    rw [splitOnce] at h
    split at h
    case isTrue =>
      cases h
      rw [List.length_cons, List.length_nil]
      omega
    case isFalse =>
      obtain ⟨⟨name', value'⟩, hs, h⟩ := Option.map_eq_some_iff.1 h
      cases h
      have := ih hs
      rw [List.length_cons, List.length_cons]
      omega

theorem length_eq_of_eqIgnoreAsciiCase {s t : List Char} (h : eqIgnoreAsciiCase s t) :
    s.length = t.length := by
  have := congrArg List.length (eq_of_beq h)
  rwa [List.length_map, List.length_map] at this

/-- A word, a word and a version, with white space between them. -/
theorem length_requestLine {requestLine : List Char}
    (hmethod : (splitWhitespace requestLine)[0]?.getD [] ≠ [])
    (htarget : (splitWhitespace requestLine)[1]?.getD [] ≠ [])
    (hversion : "HTTP/1.".toList <+: (splitWhitespace requestLine)[2]?.getD []) :
    11 ≤ requestLine.length := by
  have hsum := length_splitOnP isWhitespace requestLine
  have hsub : ((splitWhitespace requestLine).map (·.length + 1)).sum ≤
      ((requestLine.splitOnP isWhitespace).map (·.length + 1)).sum :=
    (List.filter_sublist.map _).sum_le_sum fun _ _ => Nat.zero_le _
  rcases hparts : splitWhitespace requestLine with _ | ⟨method, _ | ⟨target, _ | ⟨version, rest⟩⟩⟩
  · simp [hparts] at hmethod
  · simp [hparts] at htarget
  · simp [hparts] at hversion
  · rw [hparts] at hmethod htarget hversion hsub
    have := List.length_pos_iff.2 hmethod
    have := List.length_pos_iff.2 htarget
    have := hversion.length_le
    have hlen : "HTTP/1.".toList.length = 7 := by decide
    simp at *
    omega

/-! ## The shortest head of a chunked request -/

theorem mem_parseHeaderFields {lines : List (List Char)} {headers : Headers}
    (h : parseHeaderFields lines = .ok headers) (hfield : field ∈ headers) :
    ∃ line ∈ lines, field.1.length + 1 + field.2.length ≤ line.length := by
  induction lines generalizing headers with
  | nil =>
    cases h
    cases hfield
  | cons line lines ih =>
    rw [parseHeaderFields] at h
    split at h
    case isTrue =>
      obtain ⟨line', hline', hlen⟩ := ih h hfield
      exact ⟨line', .tail _ hline', hlen⟩
    case isFalse =>
      cases hsplit : splitOnce ':' line with
      | none =>
        rw [hsplit] at h
        cases h
      | some parts =>
        rw [hsplit] at h
        obtain ⟨rest, hrest, h⟩ := Except.bind_eq_ok.1 h
        cases h
        rcases List.mem_cons.1 hfield with rfl | hfield
        · have := length_splitOnce hsplit
          have := length_trim_le parts.1
          have := length_trim_le parts.2
          exact ⟨line, .head _, by dsimp only; omega⟩
        · obtain ⟨line', hline', hlen⟩ := ih hrest hfield
          exact ⟨line', .tail _ hline', hlen⟩

theorem length_parseHttpHead {s : List Char}
    (h : parseHttpHead s = .ok (method, target, version, headers)) (hfield : field ∈ headers) :
    13 + (field.1.length + 1 + field.2.length) ≤ s.length := by
  have hsum := length_splitCrlf s
  rw [parseHttpHead] at h
  cases hlines : splitCrlf s with
  | nil => exact absurd hlines (splitCrlf_ne_nil s)
  | cons requestLine lines =>
    rw [hlines] at h hsum
    obtain ⟨_, hvalid, h⟩ := Except.bind_eq_ok.1 h
    obtain ⟨headers', hheaders, h⟩ := Except.bind_eq_ok.1 h
    cases h
    have hvalid := failIf_eq_ok.1 hvalid
    rw [not_or, not_or, not_not] at hvalid
    have := length_requestLine hvalid.1 hvalid.2.1 hvalid.2.2
    obtain ⟨line, hline, hlen⟩ := mem_parseHeaderFields hheaders hfield
    have := List.le_sum_of_mem (List.mem_map_of_mem (f := (·.length + 2)) hline)
    rw [List.map_cons, List.sum_cons] at hsum
    omega

theorem mem_of_chunked {headers : Headers} {allowChunked : Bool}
    (h : requestBodyKind headers allowChunked = .ok .chunked) :
    allowChunked = true ∧ ∃ field ∈ headers, 17 ≤ field.1.length ∧ 7 ≤ field.2.length := by
  obtain ⟨contentLen, -, h⟩ := Except.bind_eq_ok.1 h
  cases hfield : header headers "Transfer-Encoding" with
  | none =>
    rw [hfield] at h
    cases contentLen <;> cases h
  | some value =>
    rw [hfield] at h
    dsimp only at h
    split at h
    case isFalse =>
      obtain ⟨_, -, h⟩ := Except.bind_eq_ok.1 h
      cases contentLen <;> cases h
    case isTrue hchunked =>
      obtain ⟨_, -, h⟩ := Except.bind_eq_ok.1 h
      obtain ⟨_, hallow, h⟩ := Except.bind_eq_ok.1 h
      have hallow := failIf_eq_ok.1 hallow
      obtain ⟨field, hfind, rfl⟩ := Option.map_eq_some_iff.1 hfield
      refine ⟨by simpa using hallow, field, List.mem_of_find?_eq_some hfind, ?_, ?_⟩
      · have hname := List.find?_some hfind
        exact Nat.le_of_eq (length_eq_of_eqIgnoreAsciiCase hname).symm
      · obtain ⟨token, htoken, hchunked⟩ := List.any_eq_true.1 hchunked
        obtain ⟨part, hpart, rfl⟩ := List.mem_map.1 htoken
        have := length_eq_of_eqIgnoreAsciiCase hchunked
        have hlen : "chunked".toList.length = 7 := by decide
        have := length_trim_le part
        have hsum := length_splitOnP (· == ',') field.2
        have := List.le_sum_of_mem (List.mem_map_of_mem (f := (·.length + 1)) hpart)
        rw [List.splitOn] at this
        omega

theorem length_toList_le (s : String) : s.toList.length ≤ (asBytes s).length := by
  rw [asBytes_eq_flatMap, List.length_flatMap]
  generalize s.toList = cs
  induction cs with
  | nil => exact Nat.le_refl _
  | cons c cs ih =>
    have := List.length_pos_iff.2 (String.utf8EncodeChar_ne_nil (c := c))
    rw [List.map_cons, List.sum_cons, List.length_cons]
    omega

/-- No head of less than 38 bytes asks for a chunked body. -/
theorem headerEnd_of_chunked {src : BytesMut} (hfind : findHttpHeaderEnd src = some headerEnd)
    (hhead : readHead src headerEnd = .ok (method, target, version, headers))
    (hkind : requestBodyKind headers allowChunked = .ok .chunked) :
    allowChunked = true ∧ 38 ≤ headerEnd := by
  have hle := findHttpHeaderEnd_le hfind
  have hparse := parseHttpRequestWithBody_eq hfind hhead (Nat.le_refl _) [] []
  rw [parseHttpRequestWithBody, slice_ok ⟨Nat.zero_le _, by rw [List.length_take]; omega⟩,
    Except.ok_bind] at hparse
  obtain ⟨text, htext, hparse⟩ := Except.bind_eq_ok.1 hparse
  obtain ⟨head, hparse, heq⟩ := Except.bind_eq_ok.1 hparse
  obtain ⟨s, hs, rfl⟩ := strFromUtf8_eq_ok htext
  obtain ⟨method', target', version', headers'⟩ := head
  cases heq
  obtain ⟨hallow, field, hfield, hname, hvalue⟩ := mem_of_chunked hkind
  have := length_parseHttpHead hparse hfield
  have hlen := congrArg List.length (fromUtf8_eq_ok.1 hs)
  have := length_toList_le s
  simp only [List.length_take, List.length_drop] at hlen
  exact ⟨hallow, by omega⟩

/-! ## The limit -/

/-- Without chunked bodies no more is held back than a head, a blank line and a body. -/
theorem pending_length_le {options : HttpDecodeOptions}
    (hoptions : options.allowChunked = false ∨ options.maxHeaderLen < 38)
    (h : decodeHttpRequest options src = .ok none rest) :
    src.length ≤ options.maxHeaderLen + 4 + options.maxBodyLen := by
  cases hfind : findHttpHeaderEnd src with
  | none =>
    rw [decodeHttpRequest_none hfind] at h
    split at h
    case isTrue => cases h
    case isFalse hlen => omega
  | some headerEnd =>
    by_cases hmax : headerEnd ≤ options.maxHeaderLen
    · rw [decodeHttpRequest_found hfind hmax] at h
      split at h
      case h_1 => cases h
      case h_3 => cases h
      case h_2 houtcome =>
        obtain ⟨⟨method, target, version, headers⟩, hhead, houtcome⟩ :=
          Except.bind_eq_ok.1 houtcome
        obtain ⟨kind, hkind, houtcome⟩ := Except.bind_eq_ok.1 houtcome
        obtain ⟨extent, hextent, houtcome⟩ := Except.bind_eq_ok.1 houtcome
        obtain rfl := Option.map_eq_none_iff.1 (Except.ok.inj houtcome)
        cases kind with
        | none => cases hextent
        | contentLength contentLen =>
          obtain ⟨_, hbody, hextent⟩ := Except.bind_eq_ok.1 hextent
          obtain ⟨totalLen, htotal, hextent⟩ := Except.bind_eq_ok.1 hextent
          obtain ⟨len, hlen, htotal⟩ := Option.bind_eq_some_iff.1 (okOr_eq_ok.1 htotal)
          obtain ⟨-, rfl⟩ := checkedAdd_eq_some.1 hlen
          obtain ⟨-, rfl⟩ := checkedAdd_eq_some.1 htotal
          have hbody := failIf_eq_ok.1 hbody
          have hextent := Except.ok.inj hextent
          split at hextent
          case isTrue => omega
          case isFalse => cases hextent
        | chunked =>
          obtain ⟨hallow, hlong⟩ := headerEnd_of_chunked hfind hhead hkind
          rw [hallow] at hoptions
          rcases hoptions with hfalse | hshort
          · cases hfalse
          · omega
    · rw [decodeHttpRequest_tooLong hfind (Nat.lt_of_not_le hmax)] at h
      cases h

/-! ## What has no limit -/

/-- The shortest head that asks for a chunked body, and its blank line. -/
def chunkedHead : Bytes := asBytes "M T HTTP/1.\r\nTransfer-Encoding:chunked\r\n\r\n"

theorem length_chunkedHead : chunkedHead.length = 42 := by decide

theorem headBodyKind_chunkedHead {options : HttpDecodeOptions} (hallow : options.allowChunked = true)
    (r : Bytes) : headBodyKind options (chunkedHead ++ r) 38 = .ok .chunked := by
  have hkind : headBodyKind ⟨38, 0, true, false⟩ chunkedHead 38 = .ok .chunked := by
    decide
  rw [headBodyKind, slice_append (Nat.le_of_eq length_chunkedHead.symm), hallow]
  exact hkind

theorem decode_chunkedHead {options : HttpDecodeOptions} (hallow : options.allowChunked = true)
    (hmax : 38 ≤ options.maxHeaderLen)
    (hbody : decodeChunkedBody (chunkedHead ++ r) chunkedHead.length options.maxBodyLen
      options.preserveTrailers = .ok none) :
    decodeHttpRequest options (chunkedHead ++ r) = .ok none (chunkedHead ++ r) := by
  have hfind : findHttpHeaderEnd (chunkedHead ++ r) = some 38 :=
    Window.find_append_of_eq_some (by decide) r
  have hkind := headBodyKind_chunkedHead hallow r
  rw [headBodyKind_eq] at hkind
  obtain ⟨⟨method, target, version, headers⟩, hhead, hkind⟩ := Except.bind_eq_ok.1 hkind
  rw [length_chunkedHead] at hbody
  rw [decodeHttpRequest_found hfind hmax, requestOutcome, hhead, Except.ok_bind]
  dsimp only at hkind ⊢
  rw [hkind, Except.ok_bind, requestExtent, hbody]
  rfl

theorem decodeChunkedBody_needMore
    (h : chunkStep src maxBodyLen preserveTrailers pos 0 = .ok .needMore) :
    decodeChunkedBody src pos maxBodyLen preserveTrailers = .ok none := by
  rw [decodeChunkedBody, decodeChunkedBodyLoop_eq, List.length_nil, h]

/-- A chunk-size line without an end, its extensions included, is never refused. -/
theorem chunkStep_endlessLine (before : Bytes) (hr : 0x0d ∉ r) (maxBodyLen bodyLen : Nat)
    (preserveTrailers : Bool) :
    chunkStep (before ++ r) maxBodyLen preserveTrailers before.length bodyLen = .ok .needMore := by
  have hfind : Window.find crlf r = none := Window.find_of_not_mem (List.mem_cons_self ..) hr
  rw [chunkStep, findCrlf_eq (by simp), List.drop_left, hfind]
  rfl

/-- Nor are trailers without an end. -/
theorem chunkStep_endlessTrailers (before : Bytes) (hr : 0x0d ∉ r) (maxBodyLen bodyLen : Nat)
    (preserveTrailers : Bool) :
    chunkStep (before ++ (bytesOf ['0'] ++ (crlf ++ r))) maxBodyLen preserveTrailers before.length
      bodyLen = .ok .needMore := by
  have hsize : parseChunkSize ['0'] = .ok 0 := by decide
  have hmem : 0x0d ∈ crlf := List.mem_cons_self ..
  have hfind : findHttpHeaderEnd r = none :=
    Window.find_of_not_mem (List.mem_append_left _ hmem) hr
  have hdrop : (before ++ (bytesOf ['0'] ++ (crlf ++ r))).drop
      (before ++ (bytesOf ['0'] ++ crlf)).length = r := by
    rw [show before ++ (bytesOf ['0'] ++ (crlf ++ r)) = before ++ (bytesOf ['0'] ++ crlf) ++ r by
      simp only [List.append_assoc], List.drop_left]
  have hblank : r.take 2 ≠ crlf := fun h => hr (List.mem_of_mem_take (h ▸ hmem))
  rw [chunkStep_sizeLine (by decide) hsize rfl, if_pos rfl, lastChunk, hdrop,
    if_neg fun h => hblank h.2, findHttpHeaderEndFrom_eq (by simp), hdrop, hfind]
  rfl

/-- Neither a chunk-size line, with its extensions, nor a trailer section is ever refused for its
length. -/
theorem pending_endless {options : HttpDecodeOptions} (hallow : options.allowChunked = true)
    (hmax : 38 ≤ options.maxHeaderLen) (hr : 0x0d ∉ r) :
    decodeHttpRequest options (chunkedHead ++ r) = .ok none (chunkedHead ++ r) ∧
      decodeHttpRequest options (chunkedHead ++ (bytesOf ['0'] ++ (crlf ++ r))) =
        .ok none (chunkedHead ++ (bytesOf ['0'] ++ (crlf ++ r))) :=
  ⟨decode_chunkedHead hallow hmax
      (decodeChunkedBody_needMore (chunkStep_endlessLine chunkedHead hr _ _ _)),
    decode_chunkedHead hallow hmax
      (decodeChunkedBody_needMore (chunkStep_endlessTrailers chunkedHead hr _ _ _))⟩

/-- A buffer that is held back, of any length from some on. -/
theorem exists_pending {options : HttpDecodeOptions} (hallow : options.allowChunked = true)
    (hmax : 38 ≤ options.maxHeaderLen) (n : Nat) :
    ∃ src, src.length = 42 + n ∧ decodeHttpRequest options src = .ok none src := by
  have hr : (0x0d : UInt8) ∉ List.replicate n 0x61 :=
    fun h => absurd (List.eq_of_mem_replicate h) (by decide)
  refine ⟨_, ?_, (pending_endless hallow hmax hr).1⟩
  rw [List.length_append, length_chunkedHead, List.length_replicate]

/-- There is a limit to what is held back. -/
def PendingBounded (options : HttpDecodeOptions) : Prop :=
  ∃ bound, ∀ src rest, decodeHttpRequest options src = .ok none rest → src.length ≤ bound

/-- What is held back has a limit, namely a head, a blank line and a body, exactly if chunked bodies
are disabled or no head that asks for one is within the header limit. -/
theorem pendingBounded_iff (options : HttpDecodeOptions) :
    (PendingBounded options ↔ options.allowChunked = false ∨ options.maxHeaderLen < 38) ∧
    ((∀ src rest, decodeHttpRequest options src = .ok none rest →
        src.length ≤ options.maxHeaderLen + 4 + options.maxBodyLen) ↔
      options.allowChunked = false ∨ options.maxHeaderLen < 38) := by
  have hlimit (h : options.allowChunked = false ∨ options.maxHeaderLen < 38) :
      ∀ src rest, decodeHttpRequest options src = .ok none rest →
        src.length ≤ options.maxHeaderLen + 4 + options.maxBodyLen :=
    fun _ _ => pending_length_le h
  have hendless (h : PendingBounded options) :
      options.allowChunked = false ∨ options.maxHeaderLen < 38 := by
    obtain ⟨bound, hbound⟩ := h
    by_contra hoptions
    rw [not_or, Bool.not_eq_false, Nat.not_lt] at hoptions
    obtain ⟨src, hlen, hpending⟩ := exists_pending hoptions.1 hoptions.2 bound
    have := hbound src src hpending
    omega
  exact ⟨⟨hendless, fun h => ⟨_, hlimit h⟩⟩, fun h => hendless ⟨_, h⟩, hlimit⟩

/-- With a header limit of 38 bytes no bound that depends on the two limits holds for all
options. -/
theorem not_pending_bounded :
    ¬∃ bound : Nat → Nat → Nat, ∀ options src rest,
      decodeHttpRequest options src = .ok none rest →
        src.length ≤ bound options.maxHeaderLen options.maxBodyLen := by
  rintro ⟨bound, h⟩
  let options : HttpDecodeOptions := ⟨38, 0, true, false⟩
  have hallow : options.allowChunked = true := rfl
  obtain ⟨src, hlen, hpending⟩ := exists_pending hallow (Nat.le_refl 38) (bound 38 0)
  have hle : src.length ≤ bound 38 0 := h options src src hpending
  omega

end RsNetty.Http

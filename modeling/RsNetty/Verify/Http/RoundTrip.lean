import RsNetty.Verify.Http.Segmentation

/-!
# What was sent is what is decoded

`SentRequest` is a request as a client writes it, with either body framing. Its bytes decode to the
request again, whatever follows them (`decode_wire`).
-/

namespace RsNetty.Http
open EStateM Str

/-! ## Lines -/

/-- The bytes of some text. -/
abbrev bytesOf (s : List Char) : Bytes := asBytes (String.ofList s)

/-- Lines, each with its end. -/
def lineBytes (lines : List (List Char)) : Bytes := lines.flatMap fun line => bytesOf line ++ crlf

/-- The text of lines without the last line end. -/
def joinLines (lines : List (List Char)) : List Char := ['\r', '\n'].intercalate lines

/-- A line that is not blank and holds no line end. -/
def IsLine (line : List Char) : Prop := line ≠ [] ∧ '\r' ∉ line

theorem joinLines_cons_cons (line line' : List Char) (lines : List (List Char)) :
    joinLines (line :: line' :: lines) = line ++ '\r' :: '\n' :: joinLines (line' :: lines) := by
  simp [joinLines]

theorem bytesOf_append (s t : List Char) : bytesOf (s ++ t) = bytesOf s ++ bytesOf t :=
  asBytes_append s t

theorem bytesOf_joinLines (line line' : List Char) (lines : List (List Char)) :
    bytesOf (joinLines (line :: line' :: lines)) =
      bytesOf line ++ (crlf ++ bytesOf (joinLines (line' :: lines))) := by
  have hcrlf : bytesOf ['\r', '\n'] = crlf := by decide
  have htext : joinLines (line :: line' :: lines) =
      line ++ (['\r', '\n'] ++ joinLines (line' :: lines)) := joinLines_cons_cons line line' lines
  rw [htext, bytesOf_append, bytesOf_append, hcrlf]

theorem lineBytes_eq {lines : List (List Char)} (hne : lines ≠ []) :
    lineBytes lines = bytesOf (joinLines lines) ++ crlf := by
  induction lines with
  | nil => exact absurd rfl hne
  | cons line lines ih =>
    cases lines with
    | nil => simp [lineBytes, joinLines]
    | cons line' lines =>
      rw [lineBytes, List.flatMap_cons, ← lineBytes, ih (List.cons_ne_nil _ _), bytesOf_joinLines]
      simp

theorem splitCrlf_joinLines {lines : List (List Char)} (hne : lines ≠ [])
    (h : ∀ line ∈ lines, IsLine line) : splitCrlf (joinLines lines) = lines := by
  induction lines with
  | nil => exact absurd rfl hne
  | cons line lines ih =>
    have hline := (h line List.mem_cons_self).2
    cases lines with
    | nil => simpa [joinLines] using splitCrlf_of_not_mem hline
    | cons line' lines =>
      rw [joinLines_cons_cons, splitCrlf_append, splitCrlf_of_not_mem hline,
        ih (List.cons_ne_nil _ _) fun l hl => h l (List.mem_cons_of_mem _ hl)]
      rfl

theorem not_mem_bytesOf {line : List Char} (h : '\r' ∉ line) : 0x0d ∉ bytesOf line :=
  fun hb => h (mem_asBytes_ofList (by decide) hb)

/-- A line does not begin with a line end. -/
theorem bytesOf_line (h : IsLine line) : ∃ b bs, bytesOf line = b :: bs ∧ b ≠ 0x0d := by
  have hcr := not_mem_bytesOf h.2
  cases hbytes : bytesOf line with
  | nil =>
    rw [bytesOf, asBytes_ofList, List.flatMap_eq_nil_iff] at hbytes
    obtain ⟨c, hc⟩ := List.exists_mem_of_ne_nil line h.1
    exact absurd (hbytes c hc) String.utf8EncodeChar_ne_nil
  | cons b bs =>
    rw [hbytes] at hcr
    exact ⟨b, bs, rfl, fun hb => hcr (hb ▸ List.mem_cons_self)⟩

theorem bytesOf_joinLines_head (h : IsLine line) (lines : List (List Char)) :
    ∃ b bs, bytesOf (joinLines (line :: lines)) = b :: bs ∧ b ≠ 0x0d := by
  obtain ⟨b, bs, hbytes, hb⟩ := bytesOf_line h
  cases lines with
  | nil => exact ⟨b, bs, by simpa [joinLines] using hbytes, hb⟩
  | cons line' lines =>
    rw [bytesOf_joinLines, hbytes]
    exact ⟨b, _, rfl, hb⟩

/-- The blank line is found behind the last line. -/
theorem findHttpHeaderEnd_joinLines {lines : List (List Char)} (hne : lines ≠ [])
    (h : ∀ line ∈ lines, IsLine line) (r : Bytes) :
    findHttpHeaderEnd (bytesOf (joinLines lines) ++ (crlf ++ (crlf ++ r))) =
      some (bytesOf (joinLines lines)).length := by
  have hpattern : crlf ++ crlf = 0x0d :: [0x0a, 0x0d, 0x0a] := rfl
  induction lines with
  | nil => exact absurd rfl hne
  | cons line lines ih =>
    have hline := not_mem_bytesOf (h line List.mem_cons_self).2
    cases lines with
    | nil =>
      have hjoin : joinLines [line] = line := by simp [joinLines]
      have hhere : Window.find (0x0d :: [0x0a, 0x0d, 0x0a]) (crlf ++ (crlf ++ r)) = some 0 :=
        Window.find_of_prefix ⟨r, rfl⟩
      rw [hjoin, findHttpHeaderEnd, hpattern, Window.find_append_of_not_mem hline, hhere]
      rfl
    | cons line' lines =>
      have ih := ih (List.cons_ne_nil _ _) fun l hl => h l (List.mem_cons_of_mem _ hl)
      obtain ⟨b, bs, hbytes, hb⟩ := bytesOf_joinLines_head (h line' (by simp)) lines
      rw [findHttpHeaderEnd, hpattern] at ih
      rw [bytesOf_joinLines, List.append_assoc, findHttpHeaderEnd, hpattern,
        Window.find_append_of_not_mem hline, crlf, List.cons_append, List.cons_append,
        List.cons_append, List.cons_append, Window.find_cons_of_not_prefix (by simp [hbytes, hb.symm]),
        Window.find_cons_of_not_prefix (by simp)]
      rw [crlf] at ih
      simp only [List.nil_append, ih, Option.map_some, List.length_append, List.length_cons]

/-! ## Fields -/

/-- `name: value` -/
def fieldLine (field : List Char × List Char) : List Char := field.1 ++ ':' :: ' ' :: field.2

/-- A field that can be written on a line of its own. -/
structure PlainField (field : List Char × List Char) : Prop where
  name : trim field.1 = field.1
  value : trim field.2 = field.2
  nameLine : '\r' ∉ field.1
  valueLine : '\r' ∉ field.2
  colon : ':' ∉ field.1

/-- A field that says how the body is framed. -/
def IsFramingField (field : List Char × List Char) : Prop :=
  eqIgnoreAsciiCase field.1 "Content-Length".toList ∨
    eqIgnoreAsciiCase field.1 "Transfer-Encoding".toList

theorem PlainField.isLine (h : PlainField field) : IsLine (fieldLine field) := by
  constructor
  · simp [fieldLine]
  · simp [fieldLine, h.nameLine, h.valueLine]

theorem isLine_fieldLines {fields : Headers} (h : ∀ field ∈ fields, PlainField field) :
    ∀ line ∈ fields.map fieldLine, IsLine line := by
  intro line hline
  obtain ⟨field, hfield, rfl⟩ := List.mem_map.1 hline
  exact (h field hfield).isLine

theorem parseHeaderFields_fieldLines {fields : Headers} (h : ∀ field ∈ fields, PlainField field) :
    parseHeaderFields (fields.map fieldLine) = .ok fields := by
  induction fields with
  | nil => rfl
  | cons field fields ih =>
    have hfield := h field List.mem_cons_self
    rw [List.map_cons, parseHeaderFields, if_neg hfield.isLine.1, fieldLine,
      splitOnce_append hfield.colon]
    simp only [ih fun f hf => h f (List.mem_cons_of_mem _ hf), Except.ok_bind, trim_space,
      hfield.name, hfield.value]
    rfl

/-! ## The head -/

def requestLine (method target version : List Char) : List Char :=
  method ++ ' ' :: (target ++ ' ' :: version)

theorem isLine_requestLine (hmethod : IsWord method) (htarget : IsWord target)
    (hversion : ∀ c ∈ version, isWhitespace c = false) :
    IsLine (requestLine method target version) := by
  have hcr {s : List Char} (h : ∀ c ∈ s, isWhitespace c = false) : '\r' ∉ s :=
    fun hc => Bool.noConfusion (h _ hc)
  constructor
  · simp [requestLine]
  · simp [requestLine, hcr hmethod.2, hcr htarget.2, hcr hversion]

theorem parseHttpHead_joinLines (hmethod : IsWord method) (htarget : IsWord target)
    (hversion : ∀ c ∈ version, isWhitespace c = false) (hhttp : "HTTP/1.".toList <+: version)
    {fields : Headers} (hfields : ∀ field ∈ fields, PlainField field) :
    parseHttpHead (joinLines (requestLine method target version :: fields.map fieldLine)) =
      .ok (method, target, version, fields) := by
  have hword : IsWord version := by
    refine ⟨?_, hversion⟩
    rintro rfl
    exact absurd (List.prefix_nil.1 hhttp) (by decide)
  have hlines : ∀ line ∈ requestLine method target version :: fields.map fieldLine, IsLine line := by
    intro line hline
    rcases List.mem_cons.1 hline with rfl | hline
    · exact isLine_requestLine hmethod htarget hversion
    · exact isLine_fieldLines hfields line hline
  have hparts : splitWhitespace (requestLine method target version) =
      [method, target, version] := by
    rw [requestLine, hmethod.splitWhitespace_space, htarget.splitWhitespace_space,
      hword.splitWhitespace]
  have hstart : ¬(method = [] ∨ target = [] ∨ ¬"HTTP/1.".toList <+: version) := by
    rintro (h | h | h)
    · exact hmethod.1 h
    · exact htarget.1 h
    · exact h hhttp
  rw [parseHttpHead, splitCrlf_joinLines (List.cons_ne_nil _ _) hlines]
  simp only [hparts, List.getElem?_cons_zero, List.getElem?_cons_succ, Option.getD_some,
    failIf_eq_ok.2 hstart, Except.ok_bind, parseHeaderFields_fieldLines hfields]
  rfl

/-! ## The body framing -/

theorem contentLengthLoop_append {fields : Headers}
    (h : ∀ field ∈ fields, ¬eqIgnoreAsciiCase field.1 "Content-Length".toList)
    (found : Option Nat) (headers : Headers) :
    contentLengthLoop found (fields ++ headers) = contentLengthLoop found headers := by
  induction fields with
  | nil => rfl
  | cons field fields ih =>
    rw [List.cons_append, contentLengthLoop, if_neg (h field List.mem_cons_self),
      ih fun f hf => h f (List.mem_cons_of_mem _ hf)]

theorem contentLength_of_absent {fields : Headers}
    (h : ∀ field ∈ fields, ¬eqIgnoreAsciiCase field.1 "Content-Length".toList) :
    contentLength fields = .ok none := by
  have := contentLengthLoop_append h none []
  rwa [List.append_nil] at this

theorem header_append {fields : Headers} {name : String}
    (h : ∀ field ∈ fields, ¬eqIgnoreAsciiCase field.1 name.toList) (headers : Headers) :
    header (fields ++ headers) name = header headers name := by
  have hnone : fields.find? (fun field => eqIgnoreAsciiCase field.1 name.toList) = none :=
    List.find?_eq_none.2 h
  rw [header, List.find?_append, hnone, Option.none_or, header]

theorem header_cons_of_pos {field : List Char × List Char} {name : String}
    (h : eqIgnoreAsciiCase field.1 name.toList) (headers : Headers) :
    header (field :: headers) name = some field.2 := by
  simp [header, h]

theorem header_of_absent {fields : Headers} {name : String}
    (h : ∀ field ∈ fields, ¬eqIgnoreAsciiCase field.1 name.toList) : header fields name = none := by
  have := header_append h []
  rwa [List.append_nil] at this

theorem requestBodyKind_contentLength {leading following : Headers}
    (hleading : ∀ field ∈ leading, ¬IsFramingField field)
    (hfollowing : ∀ field ∈ following, ¬IsFramingField field) (hlen : len ≤ usizeMax)
    (allowChunked : Bool) :
    requestBodyKind (leading ++ ("Content-Length".toList, len.repr.toList) :: following)
      allowChunked = .ok (.contentLength len) := by
  have hvalue : parseUsize (trim len.repr.toList) = .ok len := by
    rw [trim_numeral (by rw [Nat.toList_repr]; exact numeral_toDigits len), parseUsize_repr hlen]
  have hcontentLength : contentLength
      (leading ++ ("Content-Length".toList, len.repr.toList) :: following) = .ok (some len) := by
    rw [contentLength, contentLengthLoop_append fun f hf h => hleading f hf (.inl h),
      contentLengthLoop, if_pos (by decide), hvalue]
    have := contentLengthLoop_append (fun f hf h => hfollowing f hf (.inl h)) (some len) []
    rwa [List.append_nil] at this
  have hcoding : header (leading ++ ("Content-Length".toList, len.repr.toList) :: following)
      "Transfer-Encoding" = none := by
    have hname : ¬eqIgnoreAsciiCase "Content-Length".toList "Transfer-Encoding".toList := by decide
    rw [header_append fun f hf h => hleading f hf (.inr h)]
    apply header_of_absent
    intro field hfield
    rcases List.mem_cons.1 hfield with rfl | hfield
    · exact hname
    · exact fun h => hfollowing field hfield (.inr h)
  rw [requestBodyKind, hcontentLength, Except.ok_bind, hcoding]
  rfl

theorem requestBodyKind_chunked {leading following : Headers}
    (hleading : ∀ field ∈ leading, ¬IsFramingField field)
    (hfollowing : ∀ field ∈ following, ¬IsFramingField field) :
    requestBodyKind (leading ++ ("Transfer-Encoding".toList, "chunked".toList) :: following) true =
      .ok .chunked := by
  have hcontentLength : contentLength
      (leading ++ ("Transfer-Encoding".toList, "chunked".toList) :: following) = .ok none := by
    rw [contentLength, contentLengthLoop_append fun f hf h => hleading f hf (.inl h),
      contentLengthLoop, if_neg (by decide)]
    exact contentLength_of_absent fun f hf h => hfollowing f hf (.inl h)
  have hcoding : header (leading ++ ("Transfer-Encoding".toList, "chunked".toList) :: following)
      "Transfer-Encoding" = some "chunked".toList := by
    rw [header_append fun f hf h => hleading f hf (.inr h), header_cons_of_pos (by decide)]
  have htokens : tokens "chunked".toList = ["chunked".toList] := by decide
  rw [requestBodyKind, hcontentLength, Except.ok_bind, hcoding]
  simp only [htokens]
  rfl

/-! ## Chunks -/

/-- A chunk as it is sent: the digits of its size, its extensions without the semicolons in front
of them, and its data. -/
structure Chunk where
  size : List Char
  extensions : List (List Char)
  data : Bytes

/-- The size line of a chunk. -/
def sizeLine (size : List Char) (extensions : List (List Char)) : List Char :=
  size ++ extensions.flatMap (';' :: ·)

def Chunk.wire (chunk : Chunk) : Bytes :=
  bytesOf (sizeLine chunk.size chunk.extensions) ++ (crlf ++ (chunk.data ++ crlf))

structure Chunk.WellFormed (chunk : Chunk) : Prop where
  size : numeral 16 chunk.size = some chunk.data.length
  extensions : ∀ extension ∈ chunk.extensions, '\r' ∉ extension
  data : chunk.data ≠ []

/-- The last chunk with the trailer fields behind it. -/
structure LastChunk where
  size : List Char
  extensions : List (List Char)
  trailers : Headers

def LastChunk.wire (last : LastChunk) : Bytes :=
  bytesOf (sizeLine last.size last.extensions) ++
    (crlf ++ (lineBytes (last.trailers.map fieldLine) ++ crlf))

structure LastChunk.WellFormed (last : LastChunk) : Prop where
  digits : last.size ≠ []
  size : numeral 16 last.size = some 0
  extensions : ∀ extension ∈ last.extensions, '\r' ∉ extension
  trailers : ∀ field ∈ last.trailers, PlainField field

section SizeLine
variable {size : List Char} {extensions : List (List Char)}

theorem not_mem_sizeLine (hsize : numeral 16 size = some n)
    (hextensions : ∀ extension ∈ extensions, '\r' ∉ extension) : '\r' ∉ sizeLine size extensions := by
  intro h
  rcases List.mem_append.1 h with h | h
  · obtain ⟨d, hd⟩ := mem_numeral hsize h
    cases (isWhitespace_digit hd).symm.trans (rfl : isWhitespace '\r' = true)
  · obtain ⟨extension, hmem, h⟩ := List.mem_flatMap.1 h
    rcases List.mem_cons.1 h with h | h
    · cases h
    · exact hextensions extension hmem h

theorem parseChunkSize_sizeLine (hne : size ≠ []) (hsize : numeral 16 size = some n)
    (hmax : n ≤ usizeMax) : parseChunkSize (sizeLine size extensions) = .ok n := by
  have hsemicolon : ';' ∉ size := by
    intro h
    obtain ⟨d, hd⟩ := mem_numeral hsize h
    have := toDigit_eq_some hd
    revert this
    decide
  have hhead : ((sizeLine size extensions).splitOn ';').headD [] = size := by
    cases extensions with
    | nil => rw [sizeLine, List.flatMap_nil, List.append_nil, List.splitOn_eq_singleton hsemicolon,
        List.headD_cons]
    | cons extension extensions =>
      rw [sizeLine, List.flatMap_cons, List.cons_append,
        List.splitOn_append_cons_self_of_not_mem hsemicolon, List.headD_cons]
  rw [parseChunkSize, hhead, trim_numeral hsize, failIf_eq_ok.2 hne, Except.ok_bind,
    fromStrRadix_of_numeral (by decide) hne hsize hmax]
  rfl

end SizeLine

theorem strFromUtf8_bytesOf (what : String) (s : List Char) : strFromUtf8 what (bytesOf s) = .ok s := by
  rw [strFromUtf8, fromUtf8_asBytes]
  simp

theorem slice_middle {i j : Nat} (before middle after : Bytes) (hi : before.length = i)
    (hj : before.length + middle.length = j) :
    slice (before ++ (middle ++ after)) i j = .ok middle := by
  subst hi hj
  rw [slice_ok ⟨Nat.le_add_right _ _, by simp⟩, List.drop_left, Nat.add_sub_cancel_left,
    List.take_left]

/-- The size line is read, and the rest of the step goes on behind it. -/
theorem chunkStep_sizeLine {src before rest : Bytes} {line : List Char} (hcr : '\r' ∉ line)
    (hsize : parseChunkSize line = .ok size)
    (hsrc : src = before ++ (bytesOf line ++ (crlf ++ rest))) (maxBodyLen bodyLen : Nat)
    (preserveTrailers : Bool) :
    chunkStep src maxBodyLen preserveTrailers before.length bodyLen =
      if size = 0 then
        lastChunk src preserveTrailers (before ++ (bytesOf line ++ crlf)).length
      else dataChunk src maxBodyLen bodyLen (before ++ (bytesOf line ++ crlf)).length size := by
  have hfind : findCrlf src before.length =
      .ok (some (before.length + (bytesOf line).length)) := by
    have hhere : Window.find crlf (crlf ++ rest) = some 0 := Window.find_of_prefix ⟨rest, rfl⟩
    have hline : Window.find crlf (bytesOf line ++ (crlf ++ rest)) =
        (Window.find crlf (crlf ++ rest)).map ((bytesOf line).length + ·) :=
      Window.find_append_of_not_mem (not_mem_bytesOf hcr) _
    rw [findCrlf_eq (by simp [hsrc]), hsrc, List.drop_left, hline, hhere]
    rfl
  have hslice : slice src before.length (before.length + (bytesOf line).length) =
      .ok (bytesOf line) := hsrc ▸ slice_middle before _ _ rfl rfl
  have hlen : (before ++ (bytesOf line ++ crlf)).length =
      before.length + (bytesOf line).length + 2 := by
    simp [crlf]
    omega
  rw [chunkStep, hfind, Except.ok_bind]
  simp only [hslice, strFromUtf8_bytesOf, Except.ok_bind, hsize, hlen]

theorem dataChunk_eq {src before data rest : Bytes} (hsrc : src = before ++ (data ++ (crlf ++ rest)))
    (hmax : bodyLen + data.length ≤ maxBodyLen) (hmem : src.length ≤ usizeMax) :
    dataChunk src maxBodyLen bodyLen before.length data.length =
      .ok (.chunk (before ++ (data ++ crlf)).length data) := by
  have hlen : src.length = before.length + data.length + 2 + rest.length := by
    simp [hsrc, crlf]
    omega
  have hfits : ¬saturatingAdd bodyLen data.length > maxBodyLen := by
    rw [saturatingAdd]
    omega
  have hcrlf : slice src (before.length + data.length) (before.length + data.length + 2) =
      .ok crlf := by
    have := slice_middle (before ++ data) crlf rest rfl rfl
    rwa [List.append_assoc, ← hsrc, List.length_append] at this
  have hdata : slice src before.length (before.length + data.length) = .ok data :=
    hsrc ▸ slice_middle before data _ rfl rfl
  rw [dataChunk, failIf_eq_ok.2 hfits, Except.ok_bind, checkedAdd_of_le (by omega), okOr,
    Except.ok_bind, checkedAdd_of_le (by omega), okOr, Except.ok_bind, if_neg (by omega), hcrlf,
    Except.ok_bind, failIf_eq_ok.2 (not_not.2 rfl), Except.ok_bind, hdata, Except.ok_bind]
  simp [crlf]
  rfl

theorem lastChunk_eq {src before rest : Bytes} {trailers : Headers}
    (htrailers : ∀ field ∈ trailers, PlainField field)
    (hsrc : src = before ++ (lineBytes (trailers.map fieldLine) ++ (crlf ++ rest)))
    (preserveTrailers : Bool) :
    lastChunk src preserveTrailers before.length =
      .ok (.last (before ++ (lineBytes (trailers.map fieldLine) ++ crlf)).length
        (if preserveTrailers then trailers else [])) := by
  cases trailers with
  | nil =>
    have hblank : src.length ≥ before.length + 2 ∧ (src.drop before.length).take 2 = crlf := by
      rw [hsrc, List.drop_left]
      exact ⟨by simp [crlf, lineBytes], rfl⟩
    rw [lastChunk, if_pos hblank]
    simp [lineBytes, crlf]
  | cons field fields =>
    have hlines := isLine_fieldLines htrailers
    have hne : (field :: fields).map fieldLine ≠ [] := List.cons_ne_nil _ _
    have hdrop : src.drop before.length =
        bytesOf (joinLines ((field :: fields).map fieldLine)) ++ (crlf ++ (crlf ++ rest)) := by
      rw [hsrc, List.drop_left, lineBytes_eq hne, List.append_assoc]
    obtain ⟨b, bs, hbytes, hb⟩ := bytesOf_joinLines_head
      (hlines _ (List.mem_cons_self ..)) (fields.map fieldLine)
    have hblank : ¬(src.length ≥ before.length + 2 ∧ (src.drop before.length).take 2 = crlf) := by
      rintro ⟨-, h⟩
      rw [hdrop, List.map_cons, hbytes] at h
      cases bs with
      | nil => simp_all [crlf]
      | cons b' bs => simp_all [crlf]
    have hfind : findHttpHeaderEndFrom src before.length = .ok (some (before.length +
        (bytesOf (joinLines ((field :: fields).map fieldLine))).length)) := by
      rw [findHttpHeaderEndFrom_eq (by simp [hsrc]), hdrop, findHttpHeaderEnd_joinLines hne hlines]
      rfl
    have hslice : slice src before.length
        (before.length + (bytesOf (joinLines ((field :: fields).map fieldLine))).length) =
          .ok (bytesOf (joinLines ((field :: fields).map fieldLine))) := by
      rw [hsrc, lineBytes_eq hne, List.append_assoc]
      exact slice_middle _ _ _ rfl rfl
    have hparse : parseTrailers (bytesOf (joinLines ((field :: fields).map fieldLine)))
        preserveTrailers = .ok (if preserveTrailers then field :: fields else []) := by
      rw [parseTrailers, if_neg (by simp [hbytes]), strFromUtf8_bytesOf, Except.ok_bind,
        splitCrlf_joinLines hne hlines, parseHeaderFields_fieldLines htrailers]
      rfl
    have hlen : (before ++ (lineBytes ((field :: fields).map fieldLine) ++ crlf)).length =
        before.length + (bytesOf (joinLines ((field :: fields).map fieldLine))).length + 4 := by
      rw [lineBytes_eq hne]
      simp [crlf]
      omega
    rw [lastChunk, if_neg hblank, hfind, Except.ok_bind]
    simp only [hslice, Except.ok_bind, hparse, hlen]
    rfl

/-- The chunks in front of the last one are read one after the other. -/
theorem decodeChunkedBodyLoop_wire {chunks : List Chunk} {last : LastChunk}
    (hchunks : ∀ chunk ∈ chunks, chunk.WellFormed) (hlast : last.WellFormed) {src before rest : Bytes}
    (hsrc : src = before ++ (chunks.flatMap Chunk.wire ++ (last.wire ++ rest)))
    (hmem : src.length ≤ usizeMax) (body : Bytes)
    (hmax : (body ++ chunks.flatMap Chunk.data).length ≤ maxBodyLen) (preserveTrailers : Bool) :
    decodeChunkedBodyLoop src maxBodyLen preserveTrailers before.length body =
      .ok (some ((before ++ (chunks.flatMap Chunk.wire ++ last.wire)).length,
        body ++ chunks.flatMap Chunk.data, if preserveTrailers then last.trailers else [])) := by
  induction chunks generalizing before body with
  | nil =>
    have hsize : parseChunkSize (sizeLine last.size last.extensions) = .ok 0 :=
      parseChunkSize_sizeLine hlast.digits hlast.size (Nat.zero_le _)
    have hlast' : src = (before ++ (bytesOf (sizeLine last.size last.extensions) ++ crlf)) ++
        (lineBytes (last.trailers.map fieldLine) ++ (crlf ++ rest)) := by
      simp [hsrc, LastChunk.wire]
    rw [decodeChunkedBodyLoop_eq,
      chunkStep_sizeLine (not_mem_sizeLine hlast.size hlast.extensions) hsize (by simpa using hlast'),
      if_pos rfl, lastChunk_eq hlast.trailers hlast']
    simp [LastChunk.wire]
  | cons chunk chunks ih =>
    have hchunk := hchunks chunk List.mem_cons_self
    have hlen : chunk.data.length ≤ usizeMax := by
      simp [hsrc, Chunk.wire] at hmem
      omega
    have hsize : parseChunkSize (sizeLine chunk.size chunk.extensions) = .ok chunk.data.length := by
      refine parseChunkSize_sizeLine ?_ hchunk.size hlen
      intro hnil
      have := hchunk.size
      rw [hnil] at this
      exact hchunk.data (List.eq_nil_of_length_eq_zero (Option.some.inj this).symm)
    have hdata : src = (before ++ (bytesOf (sizeLine chunk.size chunk.extensions) ++ crlf)) ++
        (chunk.data ++ (crlf ++ (chunks.flatMap Chunk.wire ++ (last.wire ++ rest)))) := by
      simp [hsrc, Chunk.wire]
    have hnext : src = ((before ++ (bytesOf (sizeLine chunk.size chunk.extensions) ++ crlf)) ++
        (chunk.data ++ crlf)) ++ (chunks.flatMap Chunk.wire ++ (last.wire ++ rest)) := by
      simp [hsrc, Chunk.wire]
    have hfits : body.length + chunk.data.length ≤ maxBodyLen := by
      simp at hmax
      omega
    rw [decodeChunkedBodyLoop_eq,
      chunkStep_sizeLine (not_mem_sizeLine hchunk.size hchunk.extensions) hsize (by simpa using hdata),
      if_neg (by simpa using hchunk.data), dataChunk_eq hdata hfits hmem]
    simp only
    rw [ih (fun c hc => hchunks c (List.mem_cons_of_mem _ hc)) hnext (body ++ chunk.data)
      (by simpa using hmax)]
    simp [Chunk.wire]

/-! ## Requests -/

/-- A body as it is sent. -/
inductive SentBody where
  | contentLength (body : Bytes)
  | chunked (chunks : List Chunk) (last : LastChunk)

namespace SentBody

/-- The field that announces the body. -/
def field : SentBody → List Char × List Char
  | contentLength body => ("Content-Length".toList, body.length.repr.toList)
  | chunked _ _ => ("Transfer-Encoding".toList, "chunked".toList)

def wire : SentBody → Bytes
  | contentLength body => body
  | chunked chunks last => chunks.flatMap Chunk.wire ++ last.wire

def body : SentBody → Bytes
  | contentLength body => body
  | chunked chunks _ => chunks.flatMap Chunk.data

def trailers : SentBody → Headers
  | contentLength _ => []
  | chunked _ last => last.trailers

/-- The framing that the field announces. -/
def kind : SentBody → BodyKind
  | contentLength body => .contentLength body.length
  | chunked _ _ => .chunked

def WellFormed : SentBody → Prop
  | contentLength _ => True
  | chunked chunks last => (∀ chunk ∈ chunks, chunk.WellFormed) ∧ last.WellFormed

def IsChunked : SentBody → Prop
  | contentLength _ => False
  | chunked _ _ => True

theorem plainField_field (sent : SentBody) : PlainField sent.field := by
  cases sent with
  | contentLength body =>
    have hname : trim "Content-Length".toList = "Content-Length".toList ∧
        '\r' ∉ "Content-Length".toList ∧ ':' ∉ "Content-Length".toList := by decide
    have hnumeral : numeral 10 body.length.repr.toList = some body.length := by
      rw [Nat.toList_repr]
      exact numeral_toDigits _
    refine ⟨hname.1, trim_numeral hnumeral, hname.2.1, ?_, hname.2.2⟩
    intro h
    obtain ⟨d, hd⟩ := mem_numeral hnumeral h
    cases hd
  | chunked chunks last =>
    have hplain : ∀ s ∈ ["Transfer-Encoding".toList, "chunked".toList],
        trim s = s ∧ '\r' ∉ s ∧ ':' ∉ s := by decide
    have hname := hplain "Transfer-Encoding".toList (by simp)
    have hvalue := hplain "chunked".toList (by simp)
    exact ⟨hname.1, hvalue.1, hname.2.1, hvalue.2.1, hname.2.2⟩

end SentBody

/-- A request as a client writes it; the field that announces the body stands somewhere among the
others. -/
structure SentRequest where
  method : List Char
  target : List Char
  version : List Char
  leading : Headers
  following : Headers
  sent : SentBody

namespace SentRequest

def headers (m : SentRequest) : Headers := m.leading ++ m.sent.field :: m.following

/-- The lines of the head. -/
def lines (m : SentRequest) : List (List Char) :=
  requestLine m.method m.target m.version :: m.headers.map fieldLine

def wire (m : SentRequest) : Bytes := lineBytes m.lines ++ (crlf ++ m.sent.wire)

/-- The request that was meant. -/
def request (m : SentRequest) (preserveTrailers : Bool) : HttpRequest where
  method := m.method
  target := m.target
  version := m.version
  headers := m.headers
  body := m.sent.body
  trailers := if preserveTrailers then m.sent.trailers else []

structure WellFormed (m : SentRequest) : Prop where
  method : IsWord m.method
  target : IsWord m.target
  version : ∀ c ∈ m.version, isWhitespace c = false
  http : "HTTP/1.".toList <+: m.version
  leading : ∀ field ∈ m.leading, PlainField field ∧ ¬IsFramingField field
  following : ∀ field ∈ m.following, PlainField field ∧ ¬IsFramingField field
  sent : m.sent.WellFormed

/-- The codec accepts requests of this size and with this framing. -/
structure Fits (m : SentRequest) (codec : HttpCodec) : Prop where
  head : (bytesOf (joinLines m.lines)).length ≤ codec.maxHeaderLen
  body : m.sent.body.length ≤ codec.maxBodyLen
  chunked : m.sent.IsChunked → codec.allowChunked = true

variable {m : SentRequest} {codec : HttpCodec}

theorem WellFormed.plainField (h : m.WellFormed) : ∀ field ∈ m.headers, PlainField field := by
  intro field hfield
  rcases List.mem_append.1 hfield with hfield | hfield
  · exact (h.leading field hfield).1
  · rcases List.mem_cons.1 hfield with rfl | hfield
    · exact m.sent.plainField_field
    · exact (h.following field hfield).1

theorem WellFormed.isLine (h : m.WellFormed) : ∀ line ∈ m.lines, IsLine line := by
  intro line hline
  rcases List.mem_cons.1 hline with rfl | hline
  · exact isLine_requestLine h.method h.target h.version
  · exact isLine_fieldLines h.plainField line hline

theorem wire_append (m : SentRequest) (r : Bytes) :
    m.wire ++ r = bytesOf (joinLines m.lines) ++ (crlf ++ (crlf ++ (m.sent.wire ++ r))) := by
  have hlines : lineBytes m.lines = bytesOf (joinLines m.lines) ++ crlf :=
    lineBytes_eq (List.cons_ne_nil _ _)
  simp [wire, hlines]

theorem WellFormed.findHttpHeaderEnd (h : m.WellFormed) (r : Bytes) :
    findHttpHeaderEnd (m.wire ++ r) = some (bytesOf (joinLines m.lines)).length := by
  rw [wire_append]
  exact findHttpHeaderEnd_joinLines (List.cons_ne_nil _ _) h.isLine _

theorem WellFormed.readHead (h : m.WellFormed) (r : Bytes) :
    readHead (m.wire ++ r) (bytesOf (joinLines m.lines)).length =
      .ok (m.method, m.target, m.version, m.headers) := by
  have hslice : slice (m.wire ++ r) 0 ((bytesOf (joinLines m.lines)).length + 4) =
      .ok (bytesOf (joinLines m.lines ++ "\r\n\r\n".toList)) := by
    have hblank : bytesOf (joinLines m.lines ++ "\r\n\r\n".toList) =
        bytesOf (joinLines m.lines) ++ (crlf ++ crlf) := bytesOf_append _ _
    have := slice_middle [] (bytesOf (joinLines m.lines) ++ (crlf ++ crlf)) (m.sent.wire ++ r) rfl rfl
    rw [hblank, wire_append]
    simpa [crlf] using this
  rw [Http.readHead, hslice, Except.ok_bind, strFromUtf8_bytesOf, Except.ok_bind,
    parseHttpHead_append_blank]
  exact parseHttpHead_joinLines h.method h.target h.version h.http h.plainField

theorem length_wire (m : SentRequest) :
    m.wire.length = (bytesOf (joinLines m.lines)).length + 4 + m.sent.wire.length := by
  have := congrArg List.length (m.wire_append [])
  simp [crlf] at this
  omega

theorem WellFormed.requestBodyKind (h : m.WellFormed) (hfits : m.Fits codec)
    (hmem : m.wire.length ≤ isizeMax) :
    requestBodyKind m.headers codec.allowChunked = .ok m.sent.kind := by
  have hleading : ∀ field ∈ m.leading, ¬IsFramingField field := fun f hf => (h.leading f hf).2
  have hfollowing : ∀ field ∈ m.following, ¬IsFramingField field :=
    fun f hf => (h.following f hf).2
  rw [headers]
  cases hsent : m.sent with
  | contentLength body =>
    have hbody : body.length ≤ usizeMax := by
      rw [length_wire, hsent, SentBody.wire, isizeMax] at hmem
      rw [usizeMax]
      omega
    exact requestBodyKind_contentLength hleading hfollowing hbody _
  | chunked chunks last =>
    rw [hfits.chunked (hsent ▸ trivial)]
    exact requestBodyKind_chunked hleading hfollowing

theorem WellFormed.requestExtent (h : m.WellFormed) (hfits : m.Fits codec) (r : Bytes)
    (hmem : (m.wire ++ r).length ≤ isizeMax) :
    requestExtent codec.options (m.wire ++ r) (bytesOf (joinLines m.lines)).length m.sent.kind =
      .ok (some (m.wire.length, m.sent.body,
        if codec.preserveTrailers then m.sent.trailers else [])) := by
  have hlen := m.length_wire
  have hsrc : m.wire ++ r =
      (bytesOf (joinLines m.lines) ++ (crlf ++ crlf)) ++ (m.sent.wire ++ r) := by
    rw [wire_append]
    simp
  have hstart : (bytesOf (joinLines m.lines) ++ (crlf ++ crlf)).length =
      (bytesOf (joinLines m.lines)).length + 4 := by simp [crlf]
  have hmem' : (m.wire ++ r).length ≤ usizeMax := Nat.le_trans hmem (by decide)
  have hbody := hfits.body
  have hsent := h.sent
  cases hm : m.sent with
  | contentLength body =>
    rw [hm] at hlen hbody hsrc
    rw [SentBody.wire] at hlen hsrc
    rw [List.length_append, hlen] at hmem'
    have hmax : ¬body.length > codec.options.maxBodyLen := Nat.not_lt.2 hbody
    rw [SentBody.kind, Http.requestExtent, failIf_eq_ok.2 hmax, Except.ok_bind,
      checkedAdd_of_le (by omega), Option.bind_some, checkedAdd_of_le (by omega), okOr,
      Except.ok_bind, if_neg (by rw [List.length_append, hlen]; omega), hlen]
    rw [hsrc, List.drop_left' hstart, List.take_left]
    simp [SentBody.body, SentBody.trailers]
    rfl
  | chunked chunks last =>
    rw [hm] at hsrc hbody hsent
    rw [SentBody.wire, List.append_assoc (chunks.flatMap Chunk.wire)] at hsrc
    have hloop := decodeChunkedBodyLoop_wire hsent.1 hsent.2 hsrc hmem' [] hbody
      codec.preserveTrailers
    have htotal : ((bytesOf (joinLines m.lines) ++ (crlf ++ crlf)) ++
        (chunks.flatMap Chunk.wire ++ last.wire)).length = m.wire.length := by
      rw [hlen, hm, List.length_append, hstart, SentBody.wire]
    rw [hstart, htotal] at hloop
    exact hloop

theorem WellFormed.requestOutcome (h : m.WellFormed) (hfits : m.Fits codec) (r : Bytes)
    (hmem : (m.wire ++ r).length ≤ isizeMax) :
    requestOutcome codec.options (m.wire ++ r) (bytesOf (joinLines m.lines)).length =
      .ok (some (m.wire.length, m.request codec.preserveTrailers)) := by
  have hwire : m.wire.length ≤ isizeMax := by
    rw [List.length_append] at hmem
    omega
  rw [Http.requestOutcome, h.readHead, Except.ok_bind]
  simp only
  rw [show codec.options.allowChunked = codec.allowChunked from rfl, h.requestBodyKind hfits hwire,
    Except.ok_bind, h.requestExtent hfits r hmem]
  rfl

theorem WellFormed.decodeHttpRequest (h : m.WellFormed) (hfits : m.Fits codec) (r : Bytes)
    (hmem : (m.wire ++ r).length ≤ isizeMax) :
    decodeHttpRequest codec.options (m.wire ++ r) =
      .ok (some (m.request codec.preserveTrailers)) r := by
  rw [decodeHttpRequest_found (h.findHttpHeaderEnd r) hfits.head, h.requestOutcome hfits r hmem]
  simp

/-- A request with a head four bytes within the limit is taken as a whole however it is cut. -/
def wireRequest (h : m.WellFormed) (hfits : m.Fits codec)
    (hshort : (bytesOf (joinLines m.lines)).length + 4 ≤ codec.maxHeaderLen)
    (hmem : m.wire.length ≤ isizeMax) : WireRequest codec.options where
  bytes := m.wire
  request := m.request codec.preserveTrailers
  headerEnd := (bytesOf (joinLines m.lines)).length
  found := by
    have := h.findHttpHeaderEnd []
    rwa [List.append_nil] at this
  short := hshort
  decoded := by
    have := h.decodeHttpRequest hfits [] (by rwa [List.append_nil])
    rwa [List.append_nil] at this

/-- Up to the last byte of a request the decoder asks for more, and it takes nothing. -/
theorem decode_part (h : m.WellFormed) (hfits : m.Fits codec)
    (hshort : (bytesOf (joinLines m.lines)).length + 4 ≤ codec.maxHeaderLen)
    (hmem : m.wire.length ≤ isizeMax) (hb : b ++ r = m.wire) (hr : r ≠ []) :
    codec.decode b = .ok none b :=
  (wireRequest h hfits hshort hmem).awaited hb hr

/-- A request is decoded as it was meant, and what follows it is left alone. -/
theorem decode_wire (h : m.WellFormed) (hfits : m.Fits codec) (r : Bytes)
    (hmem : (m.wire ++ r).length ≤ isizeMax) :
    codec.decode (m.wire ++ r) = .ok (some (m.request codec.preserveTrailers)) r :=
  h.decodeHttpRequest hfits r hmem

/-- A chunked upload, with an extension and a trailer field. -/
def upload : SentRequest where
  method := "POST".toList
  target := "/upload".toList
  version := "HTTP/1.1".toList
  leading := [("Host".toList, "a".toList)]
  following := []
  sent := .chunked [⟨"3".toList, ["q=1".toList], [0x0d, 0x0a, 0x30]⟩, ⟨"01".toList, [], [7]⟩]
    ⟨"0".toList, [], [("Digest".toList, "x y".toList)]⟩

theorem decode_wire_upload :
    HttpCodec.decode ⟨64, 4, true, true⟩ (upload.wire ++ [1, 2]) =
      .ok (some (upload.request true)) [1, 2] := by
  have hhost : PlainField ("Host".toList, "a".toList) :=
    ⟨by decide, by decide, by decide, by decide, by decide⟩
  have hdigest : PlainField ("Digest".toList, "x y".toList) :=
    ⟨by decide, by decide, by decide, by decide, by decide⟩
  have hchunks : ∀ chunk ∈ [Chunk.mk "3".toList ["q=1".toList] [0x0d, 0x0a, 0x30],
      ⟨"01".toList, [], [7]⟩], chunk.WellFormed := by
    intro chunk hchunk
    rcases List.mem_cons.1 hchunk with rfl | hchunk
    · exact ⟨by decide, by decide, by decide⟩
    · obtain rfl := List.mem_singleton.1 hchunk
      exact ⟨by decide, by decide, by decide⟩
  have hlast : LastChunk.WellFormed ⟨"0".toList, [], [("Digest".toList, "x y".toList)]⟩ := by
    refine ⟨by decide, by decide, by decide, fun field hfield => ?_⟩
    obtain rfl := List.mem_singleton.1 hfield
    exact hdigest
  have hleading : ∀ field ∈ upload.leading, PlainField field ∧ ¬IsFramingField field := by
    intro field hfield
    obtain rfl := List.mem_singleton.1 hfield
    exact ⟨hhost, by unfold IsFramingField; decide⟩
  have hwellFormed : upload.WellFormed :=
    ⟨⟨by decide, by simp [upload, isWhitespace]⟩, ⟨by decide, by simp [upload, isWhitespace]⟩,
      by simp [upload, isWhitespace], by decide, hleading, fun _ h => (List.not_mem_nil h).elim,
      hchunks, hlast⟩
  have hfits : upload.Fits ⟨64, 4, true, true⟩ :=
    ⟨by decide, by decide, fun _ => rfl⟩
  exact decode_wire hwellFormed hfits [1, 2] (by decide)

end SentRequest

end RsNetty.Http

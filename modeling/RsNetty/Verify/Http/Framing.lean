import RsNetty.Verify.Http.Request

/-!
# Repeated Transfer-Encoding fields

A repeated field means the same as one field with the values joined by commas. The body framing of
a request looks at the first Transfer-Encoding field only, and `framedAsMerged_iff` says for which
header lists this gives the framing of the joined field.
-/

namespace RsNetty.Http
open EStateM Str

def isTransferEncoding (field : List Char × List Char) : Bool :=
  eqIgnoreAsciiCase field.1 "Transfer-Encoding".toList

/-- The values of the Transfer-Encoding fields, in order. -/
def transferEncodings (headers : Headers) : List (List Char) :=
  (headers.filter isTransferEncoding).map (·.2)

/-- Field values joined by commas. -/
def joinValues : List (List Char) → List Char
  | [] => []
  | [value] => value
  | value :: values => value ++ ',' :: ' ' :: joinValues values

/-- The header list with all Transfer-Encoding fields merged into the first. -/
def mergeTransferEncoding : Headers → Headers
  | [] => []
  | field :: headers =>
    if isTransferEncoding field then
      (field.1, joinValues (field.2 :: transferEncodings headers)) ::
        headers.filter (!isTransferEncoding ·)
    else field :: mergeTransferEncoding headers

/-! ## The merged list -/

theorem tokens_append_comma (v s : List Char) :
    tokens (v ++ ',' :: ' ' :: s) = tokens v ++ tokens s := by
  have hspace : ((' ' :: s).splitOn ',').map trim = (s.splitOn ',').map trim := by
    rw [List.splitOn, List.splitOnP_cons_eq_if_modifyHead, if_neg (by decide)]
    cases h : s.splitOnP (· == ',') with
    | nil => exact absurd h (List.splitOnP_ne_nil _ _)
    | cons t ts => rw [List.splitOn, h, List.modifyHead_cons, List.map_cons, trim_space, List.map_cons]
  rw [tokens, List.splitOn_append_cons_self, List.map_append, hspace, tokens, tokens]

theorem tokens_joinValues (v : List Char) (vs : List (List Char)) :
    tokens (joinValues (v :: vs)) = (v :: vs).flatMap tokens := by
  induction vs generalizing v with
  | nil => simp [joinValues]
  | cons w vs ih =>
    change tokens (v ++ ',' :: ' ' :: joinValues (w :: vs)) = tokens v ++ (w :: vs).flatMap tokens
    rw [tokens_append_comma, ih]

theorem not_contentLength {name : List Char}
    (h : eqIgnoreAsciiCase name "Transfer-Encoding".toList) :
    ¬eqIgnoreAsciiCase name "Content-Length".toList := by
  unfold eqIgnoreAsciiCase at *
  intro h'
  have := (eq_of_beq h).symm.trans (eq_of_beq h')
  revert this
  decide

theorem contentLengthLoop_filter (found : Option Nat) (headers : Headers) :
    contentLengthLoop found (headers.filter (!isTransferEncoding ·)) =
      contentLengthLoop found headers := by
  induction headers generalizing found with
  | nil => rfl
  | cons field headers ih =>
    cases h : isTransferEncoding field with
    | true =>
      rw [List.filter_cons_of_neg (by simp [h]), ih, contentLengthLoop,
        if_neg (not_contentLength h)]
    | false =>
      rw [List.filter_cons_of_pos (by simp [h]), contentLengthLoop, contentLengthLoop]
      simp only [ih]

theorem contentLengthLoop_merge (found : Option Nat) (headers : Headers) :
    contentLengthLoop found (mergeTransferEncoding headers) = contentLengthLoop found headers := by
  induction headers generalizing found with
  | nil => rfl
  | cons field headers ih =>
    rw [mergeTransferEncoding]
    cases h : isTransferEncoding field with
    | true =>
      rw [if_pos rfl, contentLengthLoop, if_neg (not_contentLength h), contentLengthLoop_filter,
        contentLengthLoop, if_neg (not_contentLength h)]
    | false =>
      rw [if_neg Bool.false_ne_true, contentLengthLoop, contentLengthLoop]
      simp only [ih]

theorem header_transferEncoding (headers : Headers) :
    header headers "Transfer-Encoding" = (transferEncodings headers).head? := by
  rw [header, transferEncodings, List.head?_map, List.head?_filter]
  rfl

theorem transferEncodings_cons_of_pos (h : isTransferEncoding field = true) (headers : Headers) :
    transferEncodings (field :: headers) = field.2 :: transferEncodings headers := by
  rw [transferEncodings, List.filter_cons_of_pos h]
  rfl

theorem transferEncodings_cons_of_neg (h : isTransferEncoding field = false) (headers : Headers) :
    transferEncodings (field :: headers) = transferEncodings headers := by
  rw [transferEncodings, List.filter_cons_of_neg (by simp [h])]
  rfl

theorem transferEncodings_merge (headers : Headers) :
    transferEncodings (mergeTransferEncoding headers) =
      if transferEncodings headers = [] then [] else [joinValues (transferEncodings headers)] := by
  induction headers with
  | nil => rfl
  | cons field headers ih =>
    rw [mergeTransferEncoding]
    cases h : isTransferEncoding field with
    | true =>
      have hnone : transferEncodings (headers.filter (!isTransferEncoding ·)) = [] := by
        simp [transferEncodings]
      rw [if_pos rfl, transferEncodings_cons_of_pos (by exact h), transferEncodings_cons_of_pos h,
        hnone, if_neg (List.cons_ne_nil _ _)]
    | false =>
      rw [if_neg Bool.false_ne_true, transferEncodings_cons_of_neg h,
        transferEncodings_cons_of_neg h, ih]

/-! ## The decision -/

/-- The framing of a request with the given Content-Length and transfer codings, up to the text of
the error. -/
def framing (contentLen : Option Nat) (allowChunked : Bool) (tokens : List (List Char)) :
    Option BodyKind :=
  if tokens.any isChunked then
    if contentLen = none ∧ allowChunked ∧ tokens.getLast?.any isChunked then some .chunked else none
  else if tokens.any isUnsupported then none
  else some (contentLen.elim .none .contentLength)

theorem requestBodyKind_toOption (headers : Headers) (allowChunked : Bool) :
    (requestBodyKind headers allowChunked).toOption =
      (contentLength headers).toOption.bind fun contentLen =>
        framing contentLen allowChunked
          ((transferEncodings headers).head?.elim [] tokens) := by
  rw [requestBodyKind, header_transferEncoding]
  cases contentLength headers with
  | error e => rfl
  | ok contentLen =>
    cases (transferEncodings headers).head? with
    | none => rfl
    | some value =>
      change Except.toOption (if (tokens value).any isChunked then _ else _) =
        framing contentLen allowChunked (tokens value)
      rw [framing]
      by_cases hchunked : (tokens value).any isChunked
      · rw [if_pos hchunked, if_pos hchunked]
        cases contentLen <;> cases allowChunked <;>
          cases (tokens value).getLast?.any isChunked <;> rfl
      · rw [if_neg hchunked, if_neg hchunked]
        cases (tokens value).any isUnsupported <;> rfl

theorem framing_of_chunked {tokens : List (List Char)} (h : tokens.any isChunked)
    (hkind : framing contentLen allowChunked tokens = some kind) : kind = .chunked := by
  rw [framing, if_pos h] at hkind
  split at hkind <;> cases hkind
  rfl

/-- The tokens `first` of the first field lead to the same framing as the tokens `all` of all
fields. -/
def FirstDecides (contentLen : Option Nat) (allowChunked : Bool) (first all : List (List Char)) :
    Prop :=
  if first.any isChunked then
    contentLen = none → allowChunked →
      (first.getLast?.any isChunked ↔ all.getLast?.any isChunked)
  else if all.any isChunked then
    first.any isUnsupported ∧ ¬(contentLen = none ∧ allowChunked ∧ all.getLast?.any isChunked)
  else all.any isUnsupported → first.any isUnsupported

theorem framing_eq_iff (contentLen : Option Nat) (allowChunked : Bool) (first rest : List (List Char)) :
    framing contentLen allowChunked first = framing contentLen allowChunked (first ++ rest) ↔
      FirstDecides contentLen allowChunked first (first ++ rest) := by
  rw [framing, framing, FirstDecides]
  by_cases hfirst : first.any isChunked
  · have hall : (first ++ rest).any isChunked := by simp [hfirst]
    rw [if_pos hfirst, if_pos hall, if_pos hfirst]
    cases contentLen <;> cases allowChunked <;> cases first.getLast?.any isChunked <;>
      cases (first ++ rest).getLast?.any isChunked <;> simp
  · rw [if_neg hfirst, if_neg hfirst]
    by_cases hall : (first ++ rest).any isChunked
    · rw [if_pos hall, if_pos hall]
      by_cases hlast : contentLen = none ∧ allowChunked ∧ (first ++ rest).getLast?.any isChunked
      · rw [if_pos hlast]
        refine iff_of_false (fun h => ?_) fun h => h.2 hlast
        split at h <;> cases contentLen <;> cases h
      · rw [if_neg hlast]
        refine Iff.trans ?_ (and_iff_left hlast).symm
        cases first.any isUnsupported <;> simp
    · rw [if_neg hall, if_neg hall, List.any_append]
      cases first.any isUnsupported <;> cases rest.any isUnsupported <;> simp

/-! ## Merging the fields -/

/-- Some Transfer-Encoding field carries the token `chunked`. -/
def CarriesChunked (headers : Headers) : Prop :=
  ∃ value ∈ transferEncodings headers, (tokens value).any isChunked

/-- The request is a chunked body's: what is left of the buffer begins behind its last chunk. -/
def TakenAsChunked (options : HttpDecodeOptions) (src : BytesMut) (headerEnd : Nat)
    (request : HttpRequest) (rest : BytesMut) : Prop :=
  ∃ totalLen, decodeChunkedBody src (headerEnd + 4) options.maxBodyLen options.preserveTrailers =
    .ok (some (totalLen, request.body, request.trailers)) ∧ rest = src.drop totalLen

/-- The request is framed as if its Transfer-Encoding fields were one: the same framing or an
error for both lists, and by its chunks whenever one of the fields carries `chunked`. -/
def FramedAsMerged (headers : Headers) (allowChunked : Bool) : Prop :=
  (requestBodyKind headers allowChunked).toOption =
    (requestBodyKind (mergeTransferEncoding headers) allowChunked).toOption ∧
  (CarriesChunked headers → ∀ options src headerEnd method target version request rest,
    options.allowChunked = allowChunked → findHttpHeaderEnd src = some headerEnd →
    readHead src headerEnd = .ok (method, target, version, headers) →
    decodeHttpRequest options src = .ok (some request) rest →
    TakenAsChunked options src headerEnd request rest)

/-- The first Transfer-Encoding field decides the framing as all of them do. -/
def FirstFieldDecides (headers : Headers) (allowChunked : Bool) : Prop :=
  ∀ contentLen, contentLength headers = .ok contentLen →
    FirstDecides contentLen allowChunked ((transferEncodings headers).head?.elim [] tokens)
      ((transferEncodings headers).flatMap tokens)

theorem requestBodyKind_merge_toOption (headers : Headers) (allowChunked : Bool) :
    (requestBodyKind (mergeTransferEncoding headers) allowChunked).toOption =
      (contentLength headers).toOption.bind fun contentLen =>
        framing contentLen allowChunked ((transferEncodings headers).flatMap tokens) := by
  rw [requestBodyKind_toOption, contentLength, contentLengthLoop_merge, transferEncodings_merge]
  cases transferEncodings headers with
  | nil => rfl
  | cons value values =>
    rw [if_neg (List.cons_ne_nil _ _), List.head?_cons, Option.elim_some, tokens_joinValues]
    rfl

theorem requestBodyKind_merge_iff (headers : Headers) (allowChunked : Bool) :
    (requestBodyKind headers allowChunked).toOption =
      (requestBodyKind (mergeTransferEncoding headers) allowChunked).toOption ↔
      FirstFieldDecides headers allowChunked := by
  rw [requestBodyKind_toOption, requestBodyKind_merge_toOption, FirstFieldDecides]
  cases contentLength headers with
  | error e => exact iff_of_true rfl fun _ h => nomatch h
  | ok contentLen =>
    have hrest : ∃ rest, (transferEncodings headers).flatMap tokens =
        (transferEncodings headers).head?.elim [] tokens ++ rest := by
      cases transferEncodings headers with
      | nil => exact ⟨[], rfl⟩
      | cons value values => exact ⟨values.flatMap tokens, List.flatMap_cons⟩
    obtain ⟨rest, hrest⟩ := hrest
    rw [hrest]
    refine (framing_eq_iff contentLen allowChunked _ rest).trans ⟨?_, fun h => h _ rfl⟩
    rintro h _ ⟨⟩
    exact h

/-- A request is framed as if its Transfer-Encoding fields were one exactly when the first of them
decides as all of them do. -/
theorem framedAsMerged_iff (headers : Headers) (allowChunked : Bool) :
    FramedAsMerged headers allowChunked ↔ FirstFieldDecides headers allowChunked := by
  rw [← requestBodyKind_merge_iff]
  constructor
  · exact fun h => h.1
  · intro h
    refine ⟨h, ?_⟩
    intro hchunked options src headerEnd method target version request rest hallow hfind hhead hdecode
    obtain ⟨headerEnd', totalLen, hfind', -, houtcome, rfl⟩ := decodeHttpRequest_eq_some hdecode
    cases hfind.symm.trans hfind'
    obtain ⟨hhead', kind, hkind, hextent⟩ := requestOutcome_eq_some houtcome
    cases hhead.symm.trans hhead'
    rw [← hallow, hkind, requestBodyKind_merge_toOption] at h
    obtain ⟨contentLen, -, hframing⟩ := Option.bind_eq_some_iff.1 h.symm
    have hany : ((transferEncodings request.headers).flatMap tokens).any isChunked := by
      obtain ⟨value, hmem, hvalue⟩ := hchunked
      obtain ⟨token, htoken, hp⟩ := List.any_eq_true.1 hvalue
      exact List.any_eq_true.2 ⟨token, List.mem_flatMap.2 ⟨value, hmem, htoken⟩, hp⟩
    cases framing_of_chunked hany hframing
    exact ⟨totalLen, hextent, rfl⟩

/-- A request whose second Transfer-Encoding field says `chunked`, and its last chunk. -/
def repeatedRequest : BytesMut :=
  asBytes "POST / HTTP/1.1\r\nTransfer-Encoding: identity\r\nTransfer-Encoding: chunked\r\n\r\n" ++
    asBytes "0\r\n\r\n"

def repeatedHeaders : Headers :=
  [("Transfer-Encoding".toList, "identity".toList), ("Transfer-Encoding".toList, "chunked".toList)]

/-- The second field is not seen: the request is taken without a body, and its last chunk stays in
the buffer as the next request. -/
theorem not_framedAsMerged_repeated :
    (¬∀ headers allowChunked, FramedAsMerged headers allowChunked) ∧
    (decodeHttpRequest ⟨1024, 1024, true, true⟩).runOn repeatedRequest =
      .ok (some ⟨"POST".toList, "/".toList, "HTTP/1.1".toList, repeatedHeaders, [], []⟩,
        asBytes "0\r\n\r\n") := by
  refine ⟨fun h => ?_, by decide +kernel⟩
  have hmerged := (h repeatedHeaders true).1
  have hne : (requestBodyKind repeatedHeaders true).toOption ≠
      (requestBodyKind (mergeTransferEncoding repeatedHeaders) true).toOption := by decide
  exact hne hmerged

end RsNetty.Http

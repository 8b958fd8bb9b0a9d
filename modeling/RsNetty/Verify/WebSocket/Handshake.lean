import RsNetty.Verify.Http.RoundTrip
import RsNetty.Verify.WebSocket.Upgrade

/-!
# The two upgrade paths

`HttpWsCodec` decodes an upgrade request as it decodes every request, and validates it then;
`WebSocketCodec` has a parser of its own. The two read the same fields. They differ in the method,
which only `WebSocketCodec` compares exactly, and in the body, which only `HttpWsCodec` takes off
the buffer.
-/

namespace RsNetty.WebSocket
open EStateM Http Str

variable {base64Decode : List Char → Except String Bytes}

/-! ## The fields of an upgrade request -/

/-- What both paths check of the fields; the result is the client's key. -/
def upgradeKey (base64Decode : List Char → Except String Bytes) (headers : Headers) :
    Result (List Char) := do
  requireHeaderValue headers "Upgrade" "websocket"
  requireConnectionUpgrade headers
  requireHeaderValue headers "Sec-WebSocket-Version" "13"
  let key ← okOr (header headers "Sec-WebSocket-Key") (.decode "missing Sec-WebSocket-Key")
  validateClientKey base64Decode key
  return key

theorem requireHeaderValue_eq_ok {headers : Headers} {name expected : String}
    (h : requireHeaderValue headers name expected = .ok ()) :
    (header headers name).any (eqIgnoreAsciiCase · expected.toList) = true := by
  unfold requireHeaderValue at h
  split at h
  next => cases h
  next value hvalue =>
    rw [hvalue, Option.any_some]
    simpa using failIf_eq_ok.1 h

theorem requireConnectionUpgrade_eq_ok {headers : Headers}
    (h : requireConnectionUpgrade headers = .ok ()) :
    ((header headers "Connection").any fun value =>
      (tokens value).any (eqIgnoreAsciiCase · "upgrade".toList)) = true := by
  unfold requireConnectionUpgrade at h
  split at h
  next => cases h
  next value hvalue =>
    rw [hvalue, Option.any_some]
    simpa using failIf_eq_ok.1 h

theorem tryFrom_eq_ok {request : HttpRequest} {handshake : WebSocketHandshake} :
    WebSocketHandshake.tryFrom base64Decode request = .ok handshake ↔
      eqIgnoreAsciiCase request.method "GET".toList ∧ request.target ≠ [] ∧
        "HTTP/1.1".toList <+: request.version ∧
        ∃ key, upgradeKey base64Decode request.headers = .ok key ∧
          handshake = ⟨request.target, key, request.headers⟩ := by
  have hassoc : WebSocketHandshake.tryFrom base64Decode request = do
      failIf (¬eqIgnoreAsciiCase request.method "GET".toList ∨ request.target = [] ∨
          ¬"HTTP/1.1".toList <+: request.version)
        (.decode "invalid websocket HTTP upgrade request line")
      let key ← upgradeKey base64Decode request.headers
      return ⟨request.target, key, request.headers⟩ := by
    simp only [WebSocketHandshake.tryFrom, upgradeKey, bind_assoc, pure_bind]
  rw [hassoc, Except.bind_eq_ok]
  constructor
  · rintro ⟨_, hline, h⟩
    have hline := failIf_eq_ok.1 hline
    rw [not_or, not_or, not_not, not_not] at hline
    obtain ⟨hmethod, htarget, hversion⟩ := hline
    obtain ⟨key, hkey, h⟩ := Except.bind_eq_ok.1 h
    cases h
    exact ⟨hmethod, htarget, hversion, key, hkey, rfl⟩
  · rintro ⟨hmethod, htarget, hversion, key, hkey, rfl⟩
    have hline : ¬(¬eqIgnoreAsciiCase request.method "GET".toList ∨ request.target = [] ∨
        ¬"HTTP/1.1".toList <+: request.version) := by
      rw [not_or, not_or, not_not, not_not]
      exact ⟨hmethod, htarget, hversion⟩
    refine ⟨(), failIf_eq_ok.2 hline, ?_⟩
    rw [hkey]
    rfl

/-- A request that validates asks for the upgrade. -/
theorem isWebsocketUpgrade_of_tryFrom {request : HttpRequest} {handshake : WebSocketHandshake}
    (h : WebSocketHandshake.tryFrom base64Decode request = .ok handshake) :
    request.isWebsocketUpgrade = true := by
  obtain ⟨hmethod, -, -, key, hkey, -⟩ := tryFrom_eq_ok.1 h
  obtain ⟨_, hupgrade, hkey⟩ := Except.bind_eq_ok.1 hkey
  obtain ⟨_, hconnection, -⟩ := Except.bind_eq_ok.1 hkey
  rw [HttpRequest.isWebsocketUpgrade, hmethod, requireHeaderValue_eq_ok hupgrade,
    requireConnectionUpgrade_eq_ok hconnection]
  rfl

/-! ## The head -/

/-- Up to its blank line a head has no empty line behind the request line. -/
theorem nil_not_mem_tail {src : BytesMut} {s : List Char}
    (hfind : findHttpHeaderEnd src = some headerEnd)
    (hs : asBytes (String.ofList s) = src.take headerEnd) : [] ∉ (splitCrlf s).tail := by
  intro hmem
  obtain ⟨a, c, hc⟩ := exists_blank_of_mem_tail hmem
  have hle := findHttpHeaderEnd_le hfind
  have hbytes := congrArg (fun cs => asBytes (String.ofList cs)) hc
  simp only [asBytes_append] at hbytes
  have hblank : asBytes (String.ofList "\r\n\r\n".toList) = crlf ++ crlf := by decide
  have hcrlf : asBytes (String.ofList "\r\n".toList) = crlf := by decide
  rw [hs, hblank, hcrlf] at hbytes
  -- The blank line would be found in front of where it is.
  have hsrc : src = asBytes (String.ofList a) ++ (crlf ++ crlf) ++
      (asBytes (String.ofList c) ++ crlf ++ src.drop (headerEnd + 4)) := by
    rw [← List.append_assoc, ← List.append_assoc, hbytes, List.append_assoc (src.take headerEnd),
      ← take_of_findHttpHeaderEnd hfind, List.take_append_drop]
  have hearlier : ∃ k ≤ (asBytes (String.ofList a)).length, findHttpHeaderEnd src = some k := by
    rw [hsrc]
    exact Window.find_append_le _ _ _
  obtain ⟨k, hk, hearlier⟩ := hearlier
  cases hearlier.symm.trans hfind
  have hlen := congrArg List.length hbytes
  simp only [List.length_append, List.length_take] at hlen
  have hcrlf : crlf.length = 2 := rfl
  omega

/-- The parser that stops at an empty line and the one that skips it agree where only the blank line
is empty. -/
theorem parseHandshakeHeaders_eq_ok {lines : List (List Char)} (h : [] ∉ lines) :
    parseHandshakeHeaders (lines ++ [[], []]) = .ok headers ↔
      parseHeaderFields (lines ++ [[], []]) = .ok headers := by
  induction lines generalizing headers with
  | nil => exact Iff.rfl
  | cons line lines ih =>
    have hline : line ≠ [] := fun hline => h (hline ▸ List.mem_cons_self)
    have hlines : [] ∉ lines := fun hmem => h (List.mem_cons_of_mem _ hmem)
    rw [List.cons_append, parseHandshakeHeaders, parseHeaderFields, if_neg hline, if_neg hline]
    cases splitOnce ':' line with
    | none =>
      constructor
      · intro hok
        cases hok
      · intro hok
        cases hok
    | some field =>
      simp only [Except.bind_eq_ok, ih hlines]

theorem target_ne_nil {src : BytesMut}
    (h : readHead src headerEnd = .ok (method, target, version, headers)) : target ≠ [] := by
  obtain ⟨bytes, -, h⟩ := Except.bind_eq_ok.1 h
  obtain ⟨text, -, h⟩ := Except.bind_eq_ok.1 h
  unfold parseHttpHead at h
  split at h
  case h_1 => cases h
  case h_2 requestLine lines hlines =>
    obtain ⟨_, hline, h⟩ := Except.bind_eq_ok.1 h
    obtain ⟨_, -, h⟩ := Except.bind_eq_ok.1 h
    cases h
    have hline := failIf_eq_ok.1 hline
    rw [not_or, not_or] at hline
    exact hline.2.1

/-- What `parse_handshake` accepts, in terms of what `parse_http_head` reads. -/
theorem parseHandshake_eq_ok {s : List Char} {handshake : WebSocketHandshake}
    (hblank : [] ∉ (splitCrlf s).tail) :
    parseHandshake base64Decode (s ++ "\r\n\r\n".toList) = .ok handshake ↔
      ∃ path version headers key,
        parseHttpHead (s ++ "\r\n\r\n".toList) = .ok ("GET".toList, path, version, headers) ∧
        "HTTP/1.1".toList <+: version ∧ upgradeKey base64Decode headers = .ok key ∧
        handshake = ⟨path, key, headers⟩ := by
  have hsplit : splitCrlf (s ++ "\r\n\r\n".toList) = splitCrlf s ++ [[], []] :=
    splitCrlf_append s ['\r', '\n']
  rw [parseHandshake, parseHttpHead, hsplit]
  cases hs : splitCrlf s with
  | nil => exact absurd hs (splitCrlf_ne_nil s)
  | cons requestLine lines =>
    rw [hs, List.tail_cons] at hblank
    simp only [List.cons_append]
    generalize (splitWhitespace requestLine)[0]?.getD [] = method
    generalize (splitWhitespace requestLine)[1]?.getD [] = path
    generalize (splitWhitespace requestLine)[2]?.getD [] = version
    have hassoc (headers : Headers) : (do
          requireHeaderValue headers "Upgrade" "websocket"
          requireConnectionUpgrade headers
          requireHeaderValue headers "Sec-WebSocket-Version" "13"
          let key ← okOr (header headers "Sec-WebSocket-Key")
            (.decode "missing Sec-WebSocket-Key")
          validateClientKey base64Decode key
          return (⟨path, key, headers⟩ : WebSocketHandshake)) =
        (do return ⟨path, ← upgradeKey base64Decode headers, headers⟩) := by
      simp only [upgradeKey, bind_assoc, pure_bind]
    simp only [hassoc]
    constructor
    · intro h
      obtain ⟨_, hline, hrest⟩ := Except.bind_eq_ok.1 h
      have hline := failIf_eq_ok.1 hline
      rw [not_or, not_or, not_not, not_not] at hline
      obtain ⟨rfl, hpath, hversion⟩ := hline
      obtain ⟨headers, hheaders, hrest⟩ := Except.bind_eq_ok.1 hrest
      obtain ⟨key, hkey, hrest⟩ := Except.bind_eq_ok.1 hrest
      cases hrest
      refine ⟨path, version, headers, key, ?_, hversion, hkey, rfl⟩
      have hline : ¬("GET".toList = [] ∨ path = [] ∨ ¬"HTTP/1.".toList <+: version) := by
        rw [not_or, not_or, not_not]
        refine ⟨by decide, hpath, List.IsPrefix.trans ?_ hversion⟩
        decide
      rw [(parseHandshakeHeaders_eq_ok hblank).1 hheaders, failIf_eq_ok.2 hline]
      rfl
    · rintro ⟨path', version', headers, key, hhead, hversion, hkey, rfl⟩
      obtain ⟨_, hline, hhead⟩ := Except.bind_eq_ok.1 hhead
      obtain ⟨headers', hheaders, hhead⟩ := Except.bind_eq_ok.1 hhead
      cases hhead
      have hline := failIf_eq_ok.1 hline
      rw [not_or, not_or, not_not] at hline
      have hline' : ¬("GET".toList ≠ "GET".toList ∨ path = [] ∨ ¬"HTTP/1.1".toList <+: version) := by
        rw [not_or, not_or, not_not, not_not]
        exact ⟨rfl, hline.2.1, hversion⟩
      rw [failIf_eq_ok.2 hline', (parseHandshakeHeaders_eq_ok hblank).2 hheaders]
      simp only [Except.ok_bind, hkey]
      rfl

/-- The parser of `WebSocketCodec` accepts a head exactly when the parser of requests reads it with
the method `GET` and a version 1.1, and its fields validate. -/
theorem readHandshake_eq_ok {src : BytesMut} {handshake : WebSocketHandshake}
    (hfind : findHttpHeaderEnd src = some headerEnd) :
    WebSocketCodec.readHandshake base64Decode src headerEnd = .ok handshake ↔
      ∃ path version headers key,
        readHead src headerEnd = .ok ("GET".toList, path, version, headers) ∧
        "HTTP/1.1".toList <+: version ∧ upgradeKey base64Decode headers = .ok key ∧
        handshake = ⟨path, key, headers⟩ := by
  have hle := findHttpHeaderEnd_le hfind
  rw [WebSocketCodec.readHandshake, readHead, slice_ok ⟨Nat.zero_le _, hle⟩, Except.ok_bind,
    List.drop_zero, Nat.sub_zero, strFromUtf8, strFromUtf8, take_of_findHttpHeaderEnd hfind]
  cases htext : fromUtf8 (src.take headerEnd ++ (crlf ++ crlf)) with
  | error e =>
    constructor
    · intro h
      cases h
    · rintro ⟨path, version, headers, key, h, -⟩
      cases h
  | ok text =>
    obtain ⟨head, hhead, htext⟩ := fromUtf8_append_ascii (by decide +kernel) htext
    have hblank : (crlf ++ crlf).map (fun b => Char.ofNat b.toNat) = "\r\n\r\n".toList := by
      decide
    have hbytes : asBytes (String.ofList head.toList) = src.take headerEnd := by
      rw [String.ofList_toList, fromUtf8_eq_ok.1 hhead]
    simp only [Except.ok_bind, htext, hblank]
    exact parseHandshake_eq_ok (nil_not_mem_tail hfind hbytes)

/-! ## Agreement -/

/-- For the buffer, `WebSocketCodec` takes every upgrade request that `HttpWsCodec` takes, and the
other way round where the fields ask for no body. -/
structure UpgradesAgree (base64Decode : List Char → Except String Bytes) (http : HttpWsCodec)
    (webSocket : WebSocketCodec) (src : BytesMut) : Prop where
  toWebSocket : ∀ handshake http' rest,
    HttpWsCodec.decode base64Decode (http, src) =
      .ok (some (.webSocketHandshake handshake)) (http', rest) →
    ∃ webSocket', WebSocketCodec.decode base64Decode (webSocket, src) =
      .ok (some (.handshake handshake)) (webSocket', rest)
  toHttp : ∀ handshake webSocket' rest,
    WebSocketCodec.decode base64Decode (webSocket, src) =
      .ok (some (.handshake handshake)) (webSocket', rest) →
    header handshake.headers "Content-Length" = none →
    header handshake.headers "Transfer-Encoding" = none →
    ∃ http', HttpWsCodec.decode base64Decode (http, src) =
      .ok (some (.webSocketHandshake handshake)) (http', rest)

/-- The buffer starts with this request, of `totalLen` bytes with its body. -/
structure StartsWith (options : HttpDecodeOptions) (src : BytesMut) (headerEnd totalLen : Nat)
    (request : HttpRequest) : Prop where
  found : findHttpHeaderEnd src = some headerEnd
  short : headerEnd ≤ options.maxHeaderLen
  head : readHead src headerEnd =
    .ok (request.method, request.target, request.version, request.headers)
  framed : ∃ kind, requestBodyKind request.headers options.allowChunked = .ok kind ∧
    requestExtent options src headerEnd kind =
      .ok (some (totalLen, request.body, request.trailers))

/-- An upgrade request that validates says `GET` in capitals and ends with its head. -/
def PlainUpgrade (base64Decode : List Char → Except String Bytes) (options : HttpDecodeOptions)
    (src : BytesMut) : Prop :=
  ∀ headerEnd totalLen request handshake, StartsWith options src headerEnd totalLen request →
    WebSocketHandshake.tryFrom base64Decode request = .ok handshake →
    request.method = "GET".toList ∧ totalLen = headerEnd + 4

section Codecs
variable {http : HttpWsCodec} {webSocket : WebSocketCodec} {src : BytesMut}

theorem decodeHttpRequest_iff {options : HttpDecodeOptions} :
    decodeHttpRequest options src = .ok (some request) rest ↔
      ∃ headerEnd totalLen, StartsWith options src headerEnd totalLen request ∧
        rest = src.drop totalLen := by
  constructor
  · intro h
    obtain ⟨headerEnd, totalLen, hfind, hmax, houtcome, hrest⟩ := decodeHttpRequest_eq_some h
    obtain ⟨hhead, hframed⟩ := requestOutcome_eq_some houtcome
    exact ⟨headerEnd, totalLen, ⟨hfind, hmax, hhead, hframed⟩, hrest⟩
  · rintro ⟨headerEnd, totalLen, ⟨hfind, hmax, hhead, kind, hkind, hextent⟩, rfl⟩
    have houtcome : requestOutcome options src headerEnd = .ok (some (totalLen, request)) := by
      rw [requestOutcome, hhead, Except.ok_bind]
      simp only
      rw [hkind, Except.ok_bind, hextent]
      rfl
    rw [decodeHttpRequest_found hfind hmax, houtcome]

theorem decode_webSocketHandshake_iff (hstate : http.state = .http) :
    HttpWsCodec.decode base64Decode (http, src) =
        .ok (some (.webSocketHandshake handshake)) (http', rest) ↔
      ∃ headerEnd totalLen request, StartsWith http.options src headerEnd totalLen request ∧
        WebSocketHandshake.tryFrom base64Decode request = .ok handshake ∧ http' = http ∧
        rest = src.drop totalLen := by
  constructor
  · intro h
    have hcodec : http' = http := by
      have hfinal : (HttpWsCodec.decode base64Decode (http, src)).final.1 = http :=
        HttpWsCodec.decode_final http src
      rwa [h] at hfinal
    obtain ⟨request, hrequest, hitem⟩ := HttpWsCodec.decode_http_eq_some hstate h
    obtain ⟨headerEnd, totalLen, hstarts, hrest⟩ := decodeHttpRequest_iff.1 hrequest
    refine ⟨headerEnd, totalLen, request, hstarts, ?_, hcodec, hrest⟩
    rw [HttpWsCodec.inbound] at hitem
    split at hitem
    · cases htry : WebSocketHandshake.tryFrom base64Decode request with
      | error e =>
        rw [htry] at hitem
        cases hitem
      | ok handshake' =>
        rw [htry] at hitem
        cases hitem
        rfl
    · cases hitem
  · rintro ⟨headerEnd, totalLen, request, hstarts, htry, rfl, rfl⟩
    refine HttpWsCodec.decode_request_some hstate
      (decodeHttpRequest_iff.2 ⟨headerEnd, totalLen, hstarts, rfl⟩) ?_
    rw [HttpWsCodec.inbound, if_pos (isWebsocketUpgrade_of_tryFrom htry), htry]
    rfl

theorem decode_handshake_iff (hstate : webSocket.state = .handshake) :
    WebSocketCodec.decode base64Decode (webSocket, src) =
        .ok (some (.handshake handshake)) (webSocket', rest) ↔
      ∃ headerEnd, findHttpHeaderEnd src = some headerEnd ∧
        headerEnd ≤ webSocket.maxHttpHeaderLen ∧
        WebSocketCodec.readHandshake base64Decode src headerEnd = .ok handshake ∧
        webSocket' = { webSocket with state := .frames } ∧ rest = src.drop (headerEnd + 4) := by
  constructor
  · intro h
    cases hfind : findHttpHeaderEnd src with
    | none =>
      rw [WebSocketCodec.decode_handshake_none hstate hfind] at h
      split at h <;> cases h
    | some headerEnd =>
      by_cases hmax : headerEnd ≤ webSocket.maxHttpHeaderLen
      · cases hread : WebSocketCodec.readHandshake base64Decode src headerEnd with
        | error e =>
          have herror := WebSocketCodec.decode_handshake_error hstate hfind hmax hread
          cases h.symm.trans herror
        | ok handshake' =>
          cases h.symm.trans (WebSocketCodec.decode_handshake_ok hstate hfind hmax hread)
          exact ⟨headerEnd, rfl, hmax, hread, rfl, rfl⟩
      · cases h.symm.trans
          (WebSocketCodec.decode_handshake_tooLong hstate hfind (Nat.lt_of_not_le hmax))
  · rintro ⟨headerEnd, hfind, hmax, hread, rfl, rfl⟩
    exact WebSocketCodec.decode_handshake_ok hstate hfind hmax hread

/-- Fields that ask for no body. -/
theorem requestBodyKind_none {headers : Headers} (hlength : header headers "Content-Length" = none)
    (hencoding : header headers "Transfer-Encoding" = none) (allowChunked : Bool) :
    requestBodyKind headers allowChunked = .ok .none := by
  have habsent : ∀ field ∈ headers, ¬eqIgnoreAsciiCase field.1 "Content-Length".toList :=
    List.find?_eq_none.1 (Option.map_eq_none_iff.1 hlength)
  rw [requestBodyKind, contentLength_of_absent habsent, Except.ok_bind, hencoding]
  rfl

/-- `HttpWsCodec` takes the upgrade requests that `WebSocketCodec` takes, unless they have a body. -/
theorem decode_http_of_handshake (hhttp : http.state = .http)
    (hstate : webSocket.state = .handshake) (hmax : webSocket.maxHttpHeaderLen ≤ http.maxHttpHeaderLen)
    (h : WebSocketCodec.decode base64Decode (webSocket, src) =
      .ok (some (.handshake handshake)) (webSocket', rest))
    (hlength : header handshake.headers "Content-Length" = none)
    (hencoding : header handshake.headers "Transfer-Encoding" = none) :
    HttpWsCodec.decode base64Decode (http, src) =
      .ok (some (.webSocketHandshake handshake)) (http, rest) := by
  obtain ⟨headerEnd, hfind, hshort, hread, -, rfl⟩ := (decode_handshake_iff hstate).1 h
  obtain ⟨path, version, headers, key, hhead, hversion, hkey, rfl⟩ :=
    (readHandshake_eq_ok hfind).1 hread
  have hpath : path ≠ [] := target_ne_nil hhead
  refine (decode_webSocketHandshake_iff hhttp).2 ⟨headerEnd, headerEnd + 4,
    ⟨"GET".toList, path, version, headers, [], []⟩, ?_, ?_, rfl, rfl⟩
  · exact ⟨hfind, Nat.le_trans hshort hmax, hhead, .none,
      requestBodyKind_none hlength hencoding _, rfl⟩
  · exact tryFrom_eq_ok.2 ⟨rfl, hpath, hversion, key, hkey, rfl⟩

/-- The two paths agree on a buffer exactly if it does not start with an upgrade request that spells
its method in another case or has a body. -/
theorem upgradesAgree_iff (hhttp : http.state = .http) (hstate : webSocket.state = .handshake)
    (hmax : http.maxHttpHeaderLen = webSocket.maxHttpHeaderLen) :
    UpgradesAgree base64Decode http webSocket src ↔
      PlainUpgrade base64Decode http.options src := by
  constructor
  · intro h headerEnd totalLen request handshake hstarts htry
    obtain ⟨webSocket', hdecode⟩ := h.toWebSocket handshake http (src.drop totalLen)
      ((decode_webSocketHandshake_iff hhttp).2
        ⟨headerEnd, totalLen, request, hstarts, htry, rfl, rfl⟩)
    obtain ⟨headerEnd', hfind, -, hread, -, hrest⟩ := (decode_handshake_iff hstate).1 hdecode
    cases hstarts.found.symm.trans hfind
    obtain ⟨path, version, headers, key, hhead, -⟩ := (readHandshake_eq_ok hfind).1 hread
    have hmethod := hstarts.head.symm.trans hhead
    have hlen := congrArg List.length hrest
    obtain ⟨kind, -, hextent⟩ := hstarts.framed
    have hbounds := requestExtent_bounds (findHttpHeaderEnd_le hfind) hextent
    rw [List.length_drop, List.length_drop] at hlen
    exact ⟨congrArg Prod.fst (Except.ok.inj hmethod), by omega⟩
  · intro hplain
    refine ⟨?_, ?_⟩
    · intro handshake http' rest h
      obtain ⟨headerEnd, totalLen, request, hstarts, htry, -, rfl⟩ :=
        (decode_webSocketHandshake_iff hhttp).1 h
      obtain ⟨hmethod, rfl⟩ := hplain headerEnd totalLen request handshake hstarts htry
      obtain ⟨-, -, hversion, key, hkey, hhandshake⟩ := tryFrom_eq_ok.1 htry
      have hhead := hstarts.head
      rw [hmethod] at hhead
      have hread := (readHandshake_eq_ok hstarts.found).2
        ⟨request.target, request.version, request.headers, key, hhead, hversion, hkey, hhandshake⟩
      exact ⟨_, (decode_handshake_iff hstate).2
        ⟨headerEnd, hstarts.found, hmax ▸ hstarts.short, hread, rfl, rfl⟩⟩
    · intro handshake webSocket' rest h hlength hencoding
      exact ⟨http, decode_http_of_handshake hhttp hstate hmax.ge h hlength hencoding⟩

end Codecs

/-- An upgrade request with this method. -/
def upgradeRequest (method : String) : Bytes :=
  asBytes method ++ asBytes " /chat HTTP/1.1\r\nUpgrade: websocket\r\nConnection: Upgrade\r\n" ++
    asBytes "Sec-WebSocket-Version: 13\r\nSec-WebSocket-Key: dGhlIHNhbXBsZSBub25jZQ==\r\n\r\n"

/-- The method in capitals and no body. -/
theorem upgradesAgree_iff_sample :
    UpgradesAgree decodeSample HttpWsCodec.server WebSocketCodec.server (upgradeRequest "GET") := by
  refine (upgradesAgree_iff rfl rfl rfl).2 fun headerEnd totalLen request handshake hstarts _ => ?_
  have hfound : findHttpHeaderEnd (upgradeRequest "GET") = some 131 := by decide +kernel
  cases hfound.symm.trans hstarts.found
  have hhead : (readHead (upgradeRequest "GET") 131).toOption.map
      (fun head => (head.1, head.2.2.2)) = some ("GET".toList, sampleHeaders) := by decide +kernel
  rw [hstarts.head] at hhead
  have hrequest := Option.some.inj hhead
  have hheaders : request.headers = sampleHeaders := congrArg Prod.snd hrequest
  obtain ⟨kind, hkind, hextent⟩ := hstarts.framed
  rw [hheaders, requestBodyKind_none (by decide) (by decide)] at hkind
  cases hkind
  have hlength := congrArg Prod.fst (Option.some.inj (Except.ok.inj hextent))
  exact ⟨congrArg Prod.fst hrequest, hlength.symm⟩

/-- A method in small letters passes in one of the two paths. -/
theorem not_upgradesAgree_lowerCase :
    ¬UpgradesAgree decodeSample HttpWsCodec.server WebSocketCodec.server (upgradeRequest "get") := by
  intro h
  obtain ⟨webSocket', hdecode⟩ := h.toWebSocket ⟨"/chat".toList, sampleKey, sampleHeaders⟩
    HttpWsCodec.server [] (runOn_eq_ok.1 (by decide +kernel))
  have herror : ((WebSocketCodec.decode decodeSample).runOn
      (WebSocketCodec.server, upgradeRequest "get")).toBool = false := by decide +kernel
  rw [runOn_of_ok hdecode] at herror
  cases herror

end RsNetty.WebSocket

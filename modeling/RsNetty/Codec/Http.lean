import RsNetty.Std.Bytes
import RsNetty.Std.Str
import RsNetty.Std.Utf8
import RsNetty.Theory.Window

/-!
# `HttpCodec`

The request decoder of the HTTP/1.1 server codec: the head, the choice of the body framing, and the
two body framings.
-/

namespace RsNetty.Http
open EStateM Str

/-- A list of header fields, in wire order. -/
abbrev Headers := List (List Char × List Char)

/-- Minimal HTTP/1.1 request decoded by `HttpCodec`. -/
structure HttpRequest where
  method : List Char
  target : List Char
  version : List Char
  headers : Headers
  body : Bytes
  trailers : Headers
deriving DecidableEq, Repr

structure HttpDecodeOptions where
  maxHeaderLen : Nat
  maxBodyLen : Nat
  allowChunked : Bool
  preserveTrailers : Bool

def crlf : Bytes := [0x0d, 0x0a]

/-- `std::str::from_utf8(bytes)`, with `what` in front of the error's text. -/
def strFromUtf8 (what : String) (bytes : Bytes) : Result (List Char) :=
  match fromUtf8 bytes with
  | .ok s => .ok s.toList
  | .error err => .error (.decode s!"{what}: {err.display}")

def findHttpHeaderEnd (src : BytesMut) : Option Nat := Window.find (crlf ++ crlf) src

def findCrlf (src : BytesMut) (start : Nat) : Result (Option Nat) := do
  return (Window.find crlf (← sliceFrom src start)).map (start + ·)

def findHttpHeaderEndFrom (src : BytesMut) (start : Nat) : Result (Option Nat) := do
  return (findHttpHeaderEnd (← sliceFrom src start)).map (start + ·)

/-- Case-insensitive lookup of the first field with the name. -/
def header (headers : Headers) (name : String) : Option (List Char) :=
  (headers.find? fun field => eqIgnoreAsciiCase field.1 name.toList).map (·.2)

/-! ## The head -/

def parseHeaderFields : List (List Char) → Result Headers
  | [] => .ok []
  | line :: lines =>
    if line = [] then parseHeaderFields lines
    else
      match splitOnce ':' line with
      | none => .error (.decode s!"invalid http header: {String.ofList line}")
      | some (name, value) => do
        let headers ← parseHeaderFields lines
        return (trim name, trim value) :: headers

def parseHttpHead (header : List Char) :
    Result (List Char × List Char × List Char × Headers) :=
  match splitCrlf header with
  | [] => .error (.decode "missing http request line")
  | requestLine :: lines => do
    let requestParts := splitWhitespace requestLine
    let method := requestParts[0]?.getD []
    let target := requestParts[1]?.getD []
    let version := requestParts[2]?.getD []
    failIf (method = [] ∨ target = [] ∨ ¬"HTTP/1.".toList <+: version)
      (.decode "invalid http request line")
    let headers ← parseHeaderFields lines
    return (method, target, version, headers)

/-! ## The body framing -/

inductive BodyKind where
  | none
  | contentLength (len : Nat)
  | chunked
deriving DecidableEq, Repr

/-- The loop of `content_length`; the first argument is the value found so far. -/
def contentLengthLoop : Option Nat → Headers → Result (Option Nat)
  | contentLen, [] => .ok contentLen
  | contentLen, (name, value) :: headers =>
    if eqIgnoreAsciiCase name "Content-Length".toList then
      match parseUsize (trim value) with
      | .error err => .error (.decode s!"invalid Content-Length header: {err.display}")
      | .ok parsed =>
        if contentLen.isSome then
          .error (.decode "multiple Content-Length headers are not supported")
        else contentLengthLoop (some parsed) headers
    else contentLengthLoop contentLen headers

def contentLength (headers : Headers) : Result (Option Nat) := contentLengthLoop none headers

/-- `value.split(',').map(|token| token.trim())` -/
def tokens (value : List Char) : List (List Char) := (value.splitOn ',').map trim

def isChunked (token : List Char) : Bool := eqIgnoreAsciiCase token "chunked".toList

def isUnsupported (token : List Char) : Bool :=
  token != [] && !eqIgnoreAsciiCase token "identity".toList

def requestBodyKind (headers : Headers) (allowChunked : Bool) : Result BodyKind := do
  let contentLen ← contentLength headers
  match header headers "Transfer-Encoding" with
  | none => return contentLen.elim .none .contentLength
  | some value =>
    let tokens := tokens value
    if tokens.any isChunked then
      failIf contentLen.isSome <| .decode
        "request cannot contain both Transfer-Encoding: chunked and Content-Length"
      failIf (!allowChunked) (.decode "chunked transfer coding is disabled")
      failIf (!tokens.getLast?.any isChunked)
        (.decode "chunked transfer coding must be the final transfer encoding")
      return .chunked
    else
      failIf (tokens.any isUnsupported)
        (.decode s!"unsupported Transfer-Encoding header: {String.ofList value}")
      return contentLen.elim .none .contentLength

/-! ## The chunked body -/

def parseTrailers (src : Bytes) (preserve : Bool) : Result Headers :=
  if src = [] then .ok []
  else do
    let trailers ← strFromUtf8 "http trailers are not utf-8" src
    let fields ← parseHeaderFields (splitCrlf trailers)
    return if preserve then fields else []

def parseChunkSize (line : List Char) : Result Nat := do
  let size := trim ((line.splitOn ';').headD [])
  failIf (size = []) (.decode "missing chunk size")
  match fromStrRadix size 16 with
  | .ok size => return size
  | .error err => throw (.decode s!"invalid chunk size: {err.display}")

/-- What one iteration of the loop of `decode_chunked_body` ends in. -/
inductive ChunkStep where
  | needMore
  | last (totalLen : Nat) (trailers : Headers)
  | chunk (pos : Nat) (data : Bytes)
deriving DecidableEq, Repr

/-- The end of the body, behind the size line of the last chunk. -/
def lastChunk (src : BytesMut) (preserveTrailers : Bool) (pos : Nat) : Result ChunkStep :=
  if src.length ≥ pos + 2 ∧ (src.drop pos).take 2 = crlf then .ok (.last (pos + 2) [])
  else do
    match ← findHttpHeaderEndFrom src pos with
    | none => return .needMore
    | some trailerEnd =>
      let trailers ← parseTrailers (← slice src pos trailerEnd) preserveTrailers
      return .last (trailerEnd + 4) trailers

/-- A chunk's data, behind its size line. -/
def dataChunk (src : BytesMut) (maxBodyLen bodyLen pos size : Nat) : Result ChunkStep := do
  failIf (saturatingAdd bodyLen size > maxBodyLen)
    (.err (.frameTooLarge (saturatingAdd bodyLen size) maxBodyLen))
  let chunkEnd ← okOr (checkedAdd pos size) (.decode "chunk length overflow")
  let crlfEnd ← okOr (checkedAdd chunkEnd 2) (.decode "chunk length overflow")
  if src.length < crlfEnd then return .needMore
  else
    failIf ((← slice src chunkEnd crlfEnd) ≠ crlf)
      (.decode "chunk data is not followed by CRLF")
    return .chunk crlfEnd (← slice src pos chunkEnd)

/-- One iteration of the loop of `decode_chunked_body`. -/
def chunkStep (src : BytesMut) (maxBodyLen : Nat) (preserveTrailers : Bool) (pos bodyLen : Nat) :
    Result ChunkStep := do
  match ← findCrlf src pos with
  | none => return .needMore
  | some sizeLineEnd =>
    let sizeLine ← strFromUtf8 "chunk size line is not utf-8" (← slice src pos sizeLineEnd)
    let size ← parseChunkSize sizeLine
    if size = 0 then lastChunk src preserveTrailers (sizeLineEnd + 2)
    else dataChunk src maxBodyLen bodyLen (sizeLineEnd + 2) size

theorem dataChunk_chunk (h : dataChunk src maxBodyLen bodyLen pos size = .ok (.chunk pos' data)) :
    pos' = pos + size + 2 ∧ pos' ≤ src.length := by
  obtain ⟨_, -, h⟩ := Except.bind_eq_ok.1 h
  obtain ⟨chunkEnd, hchunk, h⟩ := Except.bind_eq_ok.1 h
  obtain ⟨crlfEnd, hcrlf, h⟩ := Except.bind_eq_ok.1 h
  obtain ⟨-, rfl⟩ := checkedAdd_eq_some.1 (okOr_eq_ok.1 hchunk)
  obtain ⟨-, rfl⟩ := checkedAdd_eq_some.1 (okOr_eq_ok.1 hcrlf)
  split at h
  case isTrue => cases h
  case isFalse hlen =>
    obtain ⟨_, -, h⟩ := Except.bind_eq_ok.1 h
    obtain ⟨_, -, h⟩ := Except.bind_eq_ok.1 h
    obtain ⟨_, -, h⟩ := Except.bind_eq_ok.1 h
    cases h
    exact ⟨rfl, Nat.le_of_not_lt hlen⟩

theorem chunkStep_chunk
    (h : chunkStep src maxBodyLen preserveTrailers pos bodyLen = .ok (.chunk pos' data)) :
    pos < pos' ∧ pos' ≤ src.length := by
  obtain ⟨sizeLineEnd, hfind, h⟩ := Except.bind_eq_ok.1 h
  cases sizeLineEnd with
  | none => cases h
  | some sizeLineEnd =>
    have hle : pos ≤ sizeLineEnd := by
      obtain ⟨_, -, hfind⟩ := Except.bind_eq_ok.1 hfind
      obtain ⟨k, -, rfl⟩ := Option.map_eq_some_iff.1 (Except.ok.inj hfind)
      exact Nat.le_add_right _ _
    obtain ⟨_, -, h⟩ := Except.bind_eq_ok.1 h
    obtain ⟨_, -, h⟩ := Except.bind_eq_ok.1 h
    obtain ⟨_, -, h⟩ := Except.bind_eq_ok.1 h
    split at h
    case isTrue =>
      unfold lastChunk at h
      split at h
      case isTrue => cases h
      case isFalse =>
        obtain ⟨trailerEnd, -, h⟩ := Except.bind_eq_ok.1 h
        cases trailerEnd with
        | none => cases h
        | some trailerEnd =>
          obtain ⟨_, -, h⟩ := Except.bind_eq_ok.1 h
          obtain ⟨_, -, h⟩ := Except.bind_eq_ok.1 h
          cases h
    case isFalse =>
      obtain ⟨rfl, hlen⟩ := dataChunk_chunk h
      exact ⟨by omega, hlen⟩

/-- The loop of `decode_chunked_body`. -/
def decodeChunkedBodyLoop (src : BytesMut) (maxBodyLen : Nat) (preserveTrailers : Bool)
    (pos : Nat) (body : Bytes) : Result (Option (Nat × Bytes × Headers)) :=
  match h : chunkStep src maxBodyLen preserveTrailers pos body.length with
  | .error e => .error e
  | .ok .needMore => .ok none
  | .ok (.last totalLen trailers) => .ok (some (totalLen, body, trailers))
  | .ok (.chunk pos' data) =>
    have := chunkStep_chunk h
    decodeChunkedBodyLoop src maxBodyLen preserveTrailers pos' (body ++ data)
termination_by src.length - pos

/-- The length of the request, its body and its trailers. -/
def decodeChunkedBody (src : BytesMut) (bodyStart maxBodyLen : Nat) (preserveTrailers : Bool) :
    Result (Option (Nat × Bytes × Headers)) :=
  decodeChunkedBodyLoop src maxBodyLen preserveTrailers bodyStart []

/-! ## Requests -/

def parseHttpRequestWithBody (src : Bytes) (headerEnd : Nat) (body : Bytes) (trailers : Headers) :
    Result HttpRequest := do
  let header ← strFromUtf8 "http request header is not utf-8" (← slice src 0 headerEnd)
  let (method, target, version, headers) ← parseHttpHead header
  return ⟨method, target, version, headers, body, trailers⟩

def parseHttpRequest (src : Bytes) (headerEnd : Nat) : Result HttpRequest := do
  parseHttpRequestWithBody src headerEnd (← sliceFrom src (headerEnd + 4)) []

/-- The body framing a complete head asks for. -/
def headBodyKind (options : HttpDecodeOptions) (src : BytesMut) (headerEnd : Nat) :
    Result BodyKind := do
  let headerText ← strFromUtf8 "http request header is not utf-8" (← slice src 0 (headerEnd + 4))
  let (_, _, _, headers) ← parseHttpHead headerText
  requestBodyKind headers options.allowChunked

/-- Take the request whose head ends at `headerEnd` off the buffer, once it is complete. -/
def takeRequest (options : HttpDecodeOptions) (headerEnd : Nat) :
    BodyKind → Exec BytesMut (Option HttpRequest)
  | .none => do
    let request ← splitTo (headerEnd + 4)
    return some (← parseHttpRequest request headerEnd)
  | .contentLength contentLen => do
    failIf (contentLen > options.maxBodyLen) (.err (.frameTooLarge contentLen options.maxBodyLen))
    let totalLen ← okOr ((checkedAdd headerEnd 4).bind (checkedAdd · contentLen))
      (.decode "http request length overflow")
    if (← get).length < totalLen then return none
    else
      let request ← splitTo totalLen
      return some (← parseHttpRequest request headerEnd)
  | .chunked => do
    match ← decodeChunkedBody (← get) (headerEnd + 4) options.maxBodyLen
        options.preserveTrailers with
    | none => return none
    | some (totalLen, body, trailers) =>
      let request ← splitTo totalLen
      return some (← parseHttpRequestWithBody request headerEnd body trailers)

def decodeHttpRequest (options : HttpDecodeOptions) : Exec BytesMut (Option HttpRequest) := do
  let src ← get
  match findHttpHeaderEnd src with
  | none =>
    failIf (src.length > options.maxHeaderLen)
      (.err (.frameTooLarge src.length options.maxHeaderLen))
    return none
  | some headerEnd =>
    failIf (headerEnd > options.maxHeaderLen)
      (.err (.frameTooLarge headerEnd options.maxHeaderLen))
    let bodyKind ← headBodyKind options src headerEnd
    takeRequest options headerEnd bodyKind

/-- True when the request asks to upgrade this connection to WebSocket. -/
def HttpRequest.isWebsocketUpgrade (self : HttpRequest) : Bool :=
  eqIgnoreAsciiCase self.method "GET".toList &&
    (header self.headers "Upgrade").any (eqIgnoreAsciiCase · "websocket".toList) &&
    (header self.headers "Connection").any fun value =>
      (tokens value).any (eqIgnoreAsciiCase · "upgrade".toList)

/-! ## Responses -/

/-- Minimal HTTP/1.1 response encoded by `HttpCodec`. -/
structure HttpResponse where
  status : UInt16
  reason : List Char
  headers : Headers
  body : Bytes
deriving DecidableEq, Repr

def defaultReason (status : UInt16) : String :=
  match status.toNat with
  | 100 => "Continue"
  | 101 => "Switching Protocols"
  | 200 => "OK"
  | 201 => "Created"
  | 202 => "Accepted"
  | 204 => "No Content"
  | 301 => "Moved Permanently"
  | 302 => "Found"
  | 304 => "Not Modified"
  | 400 => "Bad Request"
  | 401 => "Unauthorized"
  | 403 => "Forbidden"
  | 404 => "Not Found"
  | 405 => "Method Not Allowed"
  | 409 => "Conflict"
  | 413 => "Payload Too Large"
  | 415 => "Unsupported Media Type"
  | 500 => "Internal Server Error"
  | 502 => "Bad Gateway"
  | 503 => "Service Unavailable"
  | _ => "OK"

namespace HttpResponse

def new (status : UInt16) : HttpResponse := ⟨status, (defaultReason status).toList, [], []⟩

/-- `reason(reason)` -/
def withReason (self : HttpResponse) (reason : String) : HttpResponse :=
  { self with reason := reason.toList }

/-- `header(name, value)` -/
def withHeader (self : HttpResponse) (name value : String) : HttpResponse :=
  { self with headers := self.headers ++ [(name.toList, value.toList)] }

/-- `body(body)` -/
def withBody (self : HttpResponse) (body : Bytes) : HttpResponse := { self with body }

end HttpResponse

/-- The loop over the response's fields; the flag says whether a Content-Length field was seen. -/
def encodeResponseHeaders : Bool → Headers → Exec BytesMut Bool
  | hasContentLen, [] => return hasContentLen
  | hasContentLen, (name, value) :: headers => do
    extendFromSlice (asBytes (String.ofList name))
    extendFromSlice (asBytes ": ")
    extendFromSlice (asBytes (String.ofList value))
    extendFromSlice (asBytes "\r\n")
    encodeResponseHeaders (hasContentLen || eqIgnoreAsciiCase name "Content-Length".toList) headers

/-- A Content-Length field, unless the response has one. -/
def encodeContentLength (hasContentLen : Bool) (len : Nat) : Exec BytesMut Unit :=
  if hasContentLen then return ()
  else do
    extendFromSlice (asBytes "Content-Length: ")
    extendFromSlice (asBytes (toString len))
    extendFromSlice (asBytes "\r\n")

def encodeHttpResponse (response : HttpResponse) : Exec BytesMut Unit := do
  extendFromSlice (asBytes "HTTP/1.1 ")
  extendFromSlice (asBytes (toString response.status.toNat))
  extendFromSlice (asBytes " ")
  extendFromSlice (asBytes (String.ofList response.reason))
  extendFromSlice (asBytes "\r\n")
  let hasContentLen ← encodeResponseHeaders false response.headers
  encodeContentLength hasContentLen response.body.length
  extendFromSlice (asBytes "\r\n")
  extendFromSlice response.body

/-- Minimal HTTP/1.1 server codec. -/
structure HttpCodec where
  maxHeaderLen : Nat
  maxBodyLen : Nat
  allowChunked : Bool
  preserveTrailers : Bool

namespace HttpCodec

def server : HttpCodec := ⟨16 * 1024, 16 * 1024, false, false⟩

def options (self : HttpCodec) : HttpDecodeOptions :=
  ⟨self.maxHeaderLen, self.maxBodyLen, self.allowChunked, self.preserveTrailers⟩

def decode (self : HttpCodec) : Exec BytesMut (Option HttpRequest) := decodeHttpRequest self.options

end HttpCodec

end RsNetty.Http

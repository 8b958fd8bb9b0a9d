import RsNetty.Verify.Http.Response
import RsNetty.Verify.Tcp.Replies

/-!
# An HTTP server over a connection

A connection with an `HttpCodec` and a handler made by `#[handler]`. Whatever the pieces are in
which it reads the requests of its client, its pipeline is handed the requests that the client
meant, and what the client reads from it are the responses of the handler (`run_requestsAnswered`).
-/

namespace RsNetty.Http
open EStateM Segmentation Str StreamStages WebSocket

namespace HttpCodec

variable {stages : CodecStages HttpRequest HttpResponse}

def codec : StreamCodec HttpCodec HttpRequest HttpResponse :=
  ⟨decode, fun _ response => encodeHttpResponse response⟩

/-- A request that this codec accepts, with a head short enough for any cut. -/
structure Accepts (decoder : HttpCodec) (m : SentRequest) : Prop where
  wellFormed : m.WellFormed
  fits : m.Fits decoder
  head : (bytesOf (joinLines m.lines)).length + 4 ≤ decoder.maxHeaderLen
  wire : m.wire.length ≤ isizeMax

theorem Accepts.wire_ne_nil {self : HttpCodec} {m : SentRequest} (h : self.Accepts m) :
    m.wire ≠ [] :=
  (SentRequest.wireRequest h.wellFormed h.fits h.head h.wire).bytes_ne_nil

/-- The codec takes each request that it accepts as a whole. -/
theorem Accepts.takes {self : HttpCodec} {m : SentRequest} (h : self.Accepts m) :
    Takes (stateless decode) self m.wire (m.request self.preserveTrailers) self := by
  let q := SentRequest.wireRequest h.wellFormed h.fits h.head h.wire
  exact ⟨⟨q.bytes_ne_nil, fun hpart hr => stateless_ok (q.awaited hpart hr)⟩,
    fun r => stateless_ok (q.taken r)⟩

theorem decodesAs (stages : CodecStages HttpRequest HttpResponse) (self : HttpCodec) :
    (stages.around codec).DecodesAs (· = self) self.Accepts SentRequest.wire
      (SentRequest.request · self.preserveTrailers) where
  takes := by
    rintro m codec hm rfl
    exact ⟨codec, rfl, CodecStages.around_decode ▸ hm.takes⟩
  idle := by
    rintro codec rfl
    rw [CodecStages.around_decode]
    exact stateless_ok ((decodeHttpRequest_none rfl).trans (if_neg (Nat.not_lt.2 (Nat.zero_le _))))
  encode := by
    rintro codec out dst codec' dst' rfl hok
    exact (CodecStages.around_encode hok).1

theorem encodesAs (stages : CodecStages HttpRequest HttpResponse) (self : HttpCodec) :
    (stages.around codec).EncodesAs (· = self) (fun _ => True) responseBytes where
  appends := by
    refine CodecStages.around_appendsOnly fun _ response dst => ?_
    rw [show codec.encode _ response dst = _ from emits_encodeHttpResponse response dst]
    exact List.prefix_append _ _
  encode := by
    rintro codec response dst codec' dst' rfl hok
    obtain ⟨hcodec, hok⟩ := CodecStages.around_encode hok
    cases (emits_encodeHttpResponse response dst).symm.trans hok
    exact ⟨hcodec, trivial, rfl⟩
  decode := by
    rintro codec b item codec' b' rfl hok
    exact CodecStages.around_decode_codec hok

end HttpCodec

/-! ## The responses of a handler -/

/-- A response without a Content-Length field of its own and without line ends in its texts. -/
structure Plain (response : HttpResponse) : Prop where
  reason : ¬crlf <:+: bytesOf response.reason
  fields : ∀ field ∈ response.headers, HttpMessage.Plain (bytesOf field.1, bytesOf field.2)
  length : ∀ field ∈ response.headers, ¬eqIgnoreAsciiCase field.1 "Content-Length".toList

namespace Plain
variable {response : HttpResponse}

theorem selfDelimiting (h : Plain response) : SelfDelimiting response :=
  ⟨h.reason, h.fields, fun field hfield hname => absurd hname (h.length field hfield)⟩

theorem new (status : UInt16) : Plain (.new status) := by
  refine ⟨?_, nofun, nofun⟩
  change ¬crlf <:+: bytesOf (defaultReason status).toList
  unfold defaultReason
  split <;> decide

theorem withReason (h : Plain response) {reason : String}
    (hreason : ¬crlf <:+: asBytes reason) : Plain (response.withReason reason) := by
  refine ⟨?_, h.fields, h.length⟩
  rwa [HttpResponse.withReason, bytesOf, String.ofList_toList]

theorem withHeader (h : Plain response) {name value : String}
    (hfield : HttpMessage.Plain (asBytes name, asBytes value))
    (hname : ¬eqIgnoreAsciiCase name.toList "Content-Length".toList) :
    Plain (response.withHeader name value) := by
  refine ⟨h.reason, ?_, ?_⟩
  · refine List.forall_mem_append.2 ⟨h.fields, List.forall_mem_singleton.2 ?_⟩
    rwa [bytesOf, bytesOf, String.ofList_toList, String.ofList_toList]
  · exact List.forall_mem_append.2 ⟨h.length, List.forall_mem_singleton.2 hname⟩

theorem withBody (h : Plain response) (body : Bytes) : Plain (response.withBody body) :=
  ⟨h.reason, h.fields, h.length⟩

end Plain

/-- A client finds self-delimiting responses as they were sent. -/
theorem readResponses_responseBytes {responses : List HttpResponse}
    (h : ∀ response ∈ responses, SelfDelimiting response) :
    HttpMessage.readResponses (responses.flatMap responseBytes) = responses.map sent := by
  refine HttpMessage.readResponses_flatMap fun response hresponse rest => ?_
  have hstatus : HttpMessage.decimal (asBytes (toString response.status.toNat)) =
      some (sent response).status := decimal_repr _
  rw [responseBytes_eq, HttpMessage.readResponse_append_iff hstatus, ← selfDelimiting_iff]
  exact h response hresponse

/-- In a first part of what was sent it finds the first of them. -/
theorem readResponses_prefix {responses : List HttpResponse} {stream : Bytes}
    (h : ∀ response ∈ responses, SelfDelimiting response)
    (hstream : stream <+: responses.flatMap responseBytes) :
    HttpMessage.readResponses stream <+: responses.map sent := by
  rw [← readResponses_responseBytes h]
  exact HttpMessage.readResponses_mono hstream

open StreamChannel

variable {stages : CodecStages HttpRequest HttpResponse}
  {f : stages.H → stages.CurrentIn → FnFuture stages.H stages.Write}
  {t : StreamChannel (stages.around HttpCodec.codec)}
  {actions : List (ChannelAction (stages.around HttpCodec.codec))}

/-- Of a client that sends requests in pieces of any size, in a run in which nothing is put into the
channel, the pipeline is handed the first requests, as they were meant, each of them once, and the
client reads the first responses of the handler to them. Once all has been read by a task that runs,
it is all requests and all responses. -/
theorem run_requestsAnswered
    (hread : stages.read = fun handler msg => (f handler msg).respond) (env : Surroundings)
    (faults : List (Option (Nat × String)))
    (pipeline : StreamPipeline (stages.around HttpCodec.codec)) (config : TcpConnectionConfig)
    (tracked : Bool) (requests : List SentRequest)
    (hrequests : ∀ m ∈ requests, pipeline.codec.Accepts m)
    (hrun : (step env).run (new { faults } pipeline config tracked) actions = some t)
    (hbytes : readBytes actions <+: requests.flatMap SentRequest.wire)
    (hquiet : commandMessages t.queued = []) :
    let meant := requests.map (SentRequest.request · pipeline.codec.preserveTrailers)
    let responses := (stages.around HttpCodec.codec).responses f pipeline meant
    (∀ response ∈ responses, SelfDelimiting response) →
    t.rt.io.history.handed <+: meant ∧
    HttpMessage.readResponses t.rt.io.stream.sent <+: responses.map sent ∧
    (t.status.isRunning = true → readBytes actions = requests.flatMap SentRequest.wire →
      t.rt.io.history.handed = meant ∧
      HttpMessage.readResponses t.rt.io.stream.sent = responses.map sent) := by
  intro meant responses hdelimited
  obtain ⟨hhanded, hsent, hall⟩ := run_responses (HttpCodec.decodesAs stages pipeline.codec)
    (HttpCodec.encodesAs stages pipeline.codec) rfl rfl hread hrequests
    (fun m hm => (hrequests m hm).wire_ne_nil) hrun hbytes hquiet
  refine ⟨hhanded, readResponses_prefix hdelimited hsent, fun hrunning hread => ?_⟩
  obtain ⟨hhanded, hsent⟩ := hall hrunning hread
  exact ⟨hhanded, (congrArg _ hsent).trans (readResponses_responseBytes hdelimited)⟩

def greeting : SentRequest where
  method := "POST".toList
  target := "/".toList
  version := "HTTP/1.1".toList
  leading := []
  following := []
  sent := .contentLength [0x41]

theorem accepts_greeting : HttpCodec.server.Accepts greeting where
  wellFormed := ⟨⟨by decide, by simp [greeting, isWhitespace]⟩,
    ⟨by decide, by simp [greeting, isWhitespace]⟩, by simp [greeting, isWhitespace], by decide,
    nofun, nofun, trivial⟩
  fits := ⟨by decide, by decide, nofun⟩
  head := by decide
  wire := by decide

/-- A server that sends back what it gets, to a client that sends two requests in three pieces. -/
theorem run_requestsAnswered_pieces :
    let echo := fun (_ : Unit) (request : HttpRequest) =>
      FnFuture.ready (.ok ((HttpResponse.new 200).withBody request.body)) ()
    let server := HttpCodec.codec.pipeline .server
      (fun handler msg => (echo handler msg).respond) ()
    ∃ t, (step ⟨fun _ => "", 0⟩).run (new {} server {} false)
        [.read (.ok (greeting.wire.take 5)),
          .read (.ok (greeting.wire.drop 5 ++ greeting.wire.take 20)),
          .read (.ok (greeting.wire.drop 20))] = some t ∧
      t.rt.io.history.handed = [greeting.request false, greeting.request false] ∧
      HttpMessage.readResponses t.rt.io.stream.sent =
        List.replicate 2 (sent ((HttpResponse.new 200).withBody [0x41])) := by
  intro echo server
  have hend : ((step ⟨fun _ => "", 0⟩).run (new {} server {} false)
      [.read (.ok (greeting.wire.take 5)),
        .read (.ok (greeting.wire.drop 5 ++ greeting.wire.take 20)),
        .read (.ok (greeting.wire.drop 20))]).map (fun t => ((t.status.isRunning,
          commandMessages t.queued) : Bool × List HttpResponse)) = some (true, []) := by
    decide +kernel
  obtain ⟨t, hrun, ht⟩ := Option.map_eq_some_iff.1 hend
  obtain ⟨hrunning, hqueued⟩ := Prod.mk.inj ht
  have hresponses : ∀ response ∈ List.replicate 2 ((HttpResponse.new 200).withBody [0x41]),
      SelfDelimiting response := fun response hresponse =>
    List.eq_of_mem_replicate hresponse ▸ ((Plain.new 200).withBody _).selfDelimiting
  have hrequests : ∀ m ∈ [greeting, greeting], HttpCodec.server.Accepts m := by
    intro m hm
    rw [List.eq_of_mem_replicate (n := 2) hm]
    exact accepts_greeting
  have hread : readBytes (P := (CodecStages.direct fun handler msg =>
      (echo handler msg).respond).around HttpCodec.codec) [.read (.ok (greeting.wire.take 5)),
        .read (.ok (greeting.wire.drop 5 ++ greeting.wire.take 20)),
        .read (.ok (greeting.wire.drop 20))] = [greeting, greeting].flatMap SentRequest.wire := by
    decide +kernel
  have hanswered := run_requestsAnswered (f := echo) rfl ⟨fun _ => "", 0⟩ [] server {} false
    [greeting, greeting] hrequests hrun (hread ▸ List.prefix_rfl) hqueued hresponses
  exact ⟨t, hrun, hanswered.2.2 hrunning hread⟩

end RsNetty.Http

import RsNetty.Verify.Tcp.Exchange

/-!
# One connection

The account of a connection without that of its peer: what it makes of the bytes it reads, whoever
sent them (`run_receiver`), and what it puts on the socket (`run_repliesSent`).
-/

namespace RsNetty
open EStateM Traced Trace StreamStages

variable {P : StreamStages}

/-- The bytes that a run reads. -/
def readBytes (actions : List (ChannelAction P)) : Bytes := actions.flatMap ChannelAction.bytes

namespace StreamChannel

variable {S : P.C → Prop} {Able : P.CurrentOut → Prop} {word : P.CurrentOut → Bytes}
  {reply : P.Reply} {env : Surroundings} {t : StreamChannel P} {stream : TcpStream}
  {faults : List (Option (Nat × String))} {pipeline : StreamPipeline P}
  {config : TcpConnectionConfig} {tracked : Bool} {actions : List (ChannelAction P)}

theorem run_sender (hcodec : P.EncodesAs S Able word) (hS : S pipeline.codec)
    (hrun : (step env).run (new { faults } pipeline config tracked) actions = some t) :
    t.Sender S Able word :=
  Machine.run_invariant (Sender S Able word) (sender_new hS)
    (fun _ _ _ _ hs hstep => (hs.step hcodec hstep).1) hrun

theorem run_serving (hreply : P.RepliesBy reply)
    (hrun : (step env).run (new stream pipeline config tracked) actions = some t) :
    t.Serving reply (pipeline.inbound, pipeline.business, pipeline.handler) :=
  Machine.run_invariant (Serving reply (pipeline.inbound, pipeline.business, pipeline.handler))
    (TcpPeers.serving_new stream pipeline config tracked)
    (fun _ _ _ _ hs hstep => hs.step hreply hstep) hrun

theorem run_rendering
    (hrun : (step env).run (new stream pipeline config tracked) actions = some t) :
    t.Rendering pipeline.outbound :=
  Machine.run_invariant (Rendering pipeline.outbound)
    (TcpPeers.rendering_new stream pipeline config tracked)
    (fun _ _ _ _ hs hstep => hs.step hstep) hrun

/-! ## What is read -/

section
variable {M : Type} {T : P.C → Prop} {Good : M → Prop} {word : M → Bytes} {item : M → P.Item}
  {msgs : List M}

/-- A connection that reads the words of messages, in pieces of any size, hands the messages to its
pipeline. -/
theorem run_receiver (hcodec : P.DecodesAs T Good word item) (hT : T pipeline.codec)
    (hgood : ∀ m ∈ msgs, Good m) (hword : ∀ m ∈ msgs, word m ≠ [])
    (hrun : (step env).run (new stream pipeline config tracked) actions = some t)
    (hread : readBytes actions <+: msgs.flatMap word) :
    t.Receiver T word item msgs (readBytes actions).length := by
  induction actions using List.reverseRecOn generalizing t with
  | nil =>
    cases hrun
    exact receiver_new hT hword
  | append_singleton actions action ih =>
    obtain ⟨s, hs, hstep⟩ := Machine.run_concat_eq_some.1 hrun
    have hbytes : readBytes (actions ++ [action]) = readBytes actions ++ action.bytes := by
      rw [readBytes, List.flatMap_append, List.flatMap_singleton]
      rfl
    rw [hbytes] at hread ⊢
    obtain ⟨later, hlater⟩ := hread
    rw [List.append_assoc] at hlater
    rw [List.length_append]
    refine (ih hs ⟨_, hlater⟩).step hcodec hgood ⟨later, ?_⟩ hstep
    rw [← hlater, List.drop_left]

end

/-! ## What is written -/

/-- What a connection has put on the socket: through the outbound stages and the encoder, the
answers to the messages that its pipeline was handed, and the messages that came through its
channel. -/
structure Replied (reply : P.Reply) (word : P.CurrentOut → Bytes) (pipeline : StreamPipeline P)
    (t : StreamChannel P) : Prop where
  /-- Each of the two in their order, and each message once. -/
  order : ∃ given heard,
    given <+: (P.serve reply).outputs (pipeline.inbound, pipeline.business, pipeline.handler)
      t.rt.io.history.handed ∧
    heard <+: commandMessages t.queued ∧ Interleaves given heard t.rt.io.history.accepted
  sent : t.rt.io.stream.sent <+:
    (P.render.outputs pipeline.outbound t.rt.io.history.accepted).flatMap word
  /-- A task at its `select!` has left out nothing but what is still in its queue. -/
  settled : t.status.isRunning = true → ∃ heard,
    commandMessages t.queued = heard ++ commandMessages t.queue ∧
    Interleaves ((P.serve reply).outputs (pipeline.inbound, pipeline.business, pipeline.handler)
      t.rt.io.history.handed) heard t.rt.io.history.accepted ∧
    t.rt.io.stream.sent =
      (P.render.outputs pipeline.outbound t.rt.io.history.accepted).flatMap word

/-- In every run a connection whose handler neither flushes nor closes sends what its handler
answers and what it is told through its channel, whatever else happens to it. -/
theorem run_repliesSent (hcodec : P.EncodesAs S Able word) (hreply : P.RepliesBy reply)
    (env : Surroundings) (faults : List (Option (Nat × String))) (pipeline : StreamPipeline P)
    (config : TcpConnectionConfig) (tracked : Bool) (hS : S pipeline.codec)
    (hrun : (step env).run (new { faults } pipeline config tracked) actions = some t) :
    Replied reply word pipeline t := by
  have hsender := run_sender hcodec hS hrun
  have hserving := run_serving hreply hrun
  have hencoded := hsender.encoded (run_rendering hrun)
  constructor
  · obtain ⟨heard, hheard, given, hgiven, haccepted⟩ := hserving.served
    exact ⟨given, commandMessages heard, hgiven, hheard.filterMap _, haccepted⟩
  · exact hsender.sends.sent.trans (hencoded.1.flatMap word)
  · intro hrunning
    obtain ⟨heard, hheard, -, haccepted⟩ := hserving.serves hrunning
    refine ⟨commandMessages heard, ?_, haccepted, ?_⟩
    · rw [hheard]
      exact List.filterMap_append
    · rw [hsender.sent_eq hrunning, hencoded.2 hrunning]

/-- A server that numbers the frames, with a message of its own that the socket does not take as a
whole. -/
theorem run_repliesSent_broken :
    let self : FixedLengthFrameDecoder := ⟨2, by decide⟩
    let number := fun (n : UInt8) (frame : Bytes) =>
      FnFuture.ready (.ok (n :: frame.take 1)) (n + 1)
    let server := FixedLengthFrameDecoder.codec.pipeline self
      (fun n frame => (number n frame).respond) 0
    ∃ t, (step ⟨fun _ => "", 0⟩).run
        (new { faults := [none, none, some (1, "broken")] } server {} true)
        [.write [9, 9], .read (.ok [7, 7, 8]), .read (.ok [8]), .recv] = some t ∧
      t.rt.io.stream.sent = [0, 7, 1, 8, 9] ∧ Replied (respondBy number) id server t := by
  intro self number server
  have hend : ((step ⟨fun _ => "", 0⟩).run
      (new { faults := [none, none, some (1, "broken")] } server {} true)
      [.write [9, 9], .read (.ok [7, 7, 8]), .read (.ok [8]), .recv]).map (·.rt.io.stream.sent) =
        some [0, 7, 1, 8, 9] := by
    decide +kernel
  obtain ⟨t, hrun, hsent⟩ := Option.map_eq_some_iff.1 hend
  refine ⟨t, hrun, hsent, ?_⟩
  exact run_repliesSent (self.understood.link _ (CodecStages.direct fun () _ => .panic)).encodes
    (repliesBy_respond rfl) _ _ server {} true rfl hrun

/-! ## Requests and responses -/

section
variable {M : Type} {T : P.C → Prop} {Good : M → Prop} {spoken : M → Bytes} {item : M → P.Item}
  {requests : List M} {f : P.H → P.CurrentIn → FnFuture P.H P.Write}

/-- A server that is sent the words of requests, into whose channel nothing is put: it hands on the
first requests, and sends the words of the first responses. -/
theorem run_responses (hdecode : P.DecodesAs T Good spoken item)
    (hencode : P.EncodesAs S Able word) (hT : T pipeline.codec) (hS : S pipeline.codec)
    (hread : P.read = fun handler msg => (f handler msg).respond)
    (hgood : ∀ m ∈ requests, Good m) (hspoken : ∀ m ∈ requests, spoken m ≠ [])
    (hrun : (step env).run (new { faults } pipeline config tracked) actions = some t)
    (hbytes : readBytes actions <+: requests.flatMap spoken)
    (hquiet : commandMessages t.queued = []) :
    let responses := P.responses f pipeline (requests.map item)
    t.rt.io.history.handed <+: requests.map item ∧
    t.rt.io.stream.sent <+: responses.flatMap word ∧
    (t.status.isRunning = true → readBytes actions = requests.flatMap spoken →
      t.rt.io.history.handed = requests.map item ∧
      t.rt.io.stream.sent = responses.flatMap word) := by
  intro responses
  have hreceiver := run_receiver hdecode hT hgood hspoken hrun hbytes
  have hsender := run_sender hencode hS hrun
  have hrender := hsender.encoded (run_rendering hrun)
  have hgave := (run_serving (repliesBy_respond hread) hrun).accepted_respond hquiet
  refine ⟨hreceiver.hears, ?_, fun hrunning hall => ?_⟩
  · have hresponses : t.rt.io.encoded <+: responses :=
      hrender.1.trans (Transducer.outputs_mono (hgave.1.trans
        (Transducer.outputs_mono hreceiver.hears)))
    exact hsender.sends.sent.trans (hresponses.flatMap word)
  · have hhanded := hreceiver.complete hrunning (congrArg List.length hall)
    have hencoded := hrender.2 hrunning
    rw [hgave.2 hrunning, hhanded] at hencoded
    refine ⟨hhanded, ?_⟩
    rw [hsender.sent_eq hrunning, hencoded]
    rfl

end

end StreamChannel

end RsNetty

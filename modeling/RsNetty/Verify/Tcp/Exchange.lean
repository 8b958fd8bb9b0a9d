import RsNetty.Verify.Tcp.Links
import RsNetty.Verify.Tcp.Serving

/-!
# Requests and responses

A client whose messages come through its channel, and a server whose handler is made by `#[handler]`
of a function that returns a response: what the pipeline of the client is handed are the responses
of the function to the messages put into the channel, in their order.
-/

namespace RsNetty
open EStateM Traced Trace StreamState

variable {P Q : StreamStages}

namespace StreamStages

/-- `#[handler]` on a function that returns a message to be written. -/
def respondBy (f : P.H → P.CurrentIn → FnFuture P.H P.Write) : P.Reply := fun handler msg =>
  (((f handler msg).returned.map (·.1)).toList, (f handler msg).returned.map (·.2))

/-- `#[handler]` on a function that returns `Result<()>`. -/
def consumeBy (g : P.H → P.CurrentIn → FnFuture P.H Unit) : P.Reply := fun handler msg =>
  ([], (g handler msg).returned.map (·.2))

variable {f : P.H → P.CurrentIn → FnFuture P.H P.Write} {g : P.H → P.CurrentIn → FnFuture P.H Unit}

theorem repliesBy_respond (h : P.read = fun handler msg => (f handler msg).respond) :
    P.RepliesBy (respondBy f) := by
  intro handler msg
  rw [h]
  exact (f handler msg).respond_gives

theorem repliesBy_consume (h : P.read = fun handler msg => (g handler msg).consume) :
    P.RepliesBy (consumeBy g) := by
  intro handler msg
  rw [h]
  exact (g handler msg).consume_gives

theorem serve_consume (st : P.Service) (item : P.Item) :
    (P.serve (consumeBy g) st item).1 = [] := by
  obtain ⟨inbound, business, handler⟩ := st
  unfold serve
  dsimp only
  split
  · rfl
  · rfl
  · split <;> rfl

/-- The responses of a server to these messages. -/
def responses (Q : StreamStages) (f : Q.H → Q.CurrentIn → FnFuture Q.H Q.Write)
    (pipeline : StreamPipeline Q) (items : List Q.Item) : List Q.CurrentOut :=
  Q.render.outputs pipeline.outbound
    ((Q.serve (respondBy f)).outputs (pipeline.inbound, pipeline.business, pipeline.handler) items)

end StreamStages

namespace StreamChannel
open StreamStages

variable {S : P.C → Prop} {Able : P.CurrentOut → Prop} {word : P.CurrentOut → Bytes}
  {f : P.H → P.CurrentIn → FnFuture P.H P.Write} {g : P.H → P.CurrentIn → FnFuture P.H Unit}
  {pipeline : StreamPipeline P} {st : P.Service} {outbound : P.OutP} {s : StreamChannel P}

/-- What the outbound stages make of all that was put into the channel. -/
def requests (outbound : P.OutP) (s : StreamChannel P) : List P.CurrentOut :=
  P.render.outputs outbound (commandMessages s.queued)

/-- A client has been told what it writes. -/
theorem Serving.accepted_consume (h : s.Serving (consumeBy g) st) :
    s.rt.io.history.accepted <+: commandMessages s.queued ∧
      (s.status.isRunning = true → s.queue = [] →
        s.rt.io.history.accepted = commandMessages s.queued) := by
  have hnil : (P.serve (consumeBy g)).outputs st s.rt.io.history.handed = [] :=
    Transducer.outputs_nil serve_consume
  constructor
  · obtain ⟨heard, hheard, given, hgiven, haccepted⟩ := h.served
    rw [hnil] at hgiven
    rw [List.prefix_nil.1 hgiven] at haccepted
    rw [haccepted.eq_of_nil_left]
    exact hheard.filterMap _
  · intro hrunning hqueue
    obtain ⟨heard, hheard, -, haccepted⟩ := h.serves hrunning
    rw [hnil] at haccepted
    rw [hqueue, List.append_nil] at hheard
    rw [haccepted.eq_of_nil_left, hheard]

/-- A server into whose channel nothing is put writes the responses of its handler. -/
theorem Serving.accepted_respond (h : s.Serving (respondBy f) st)
    (hquiet : commandMessages s.queued = []) :
    s.rt.io.history.accepted <+: (P.serve (respondBy f)).outputs st s.rt.io.history.handed ∧
      (s.status.isRunning = true →
        s.rt.io.history.accepted = (P.serve (respondBy f)).outputs st s.rt.io.history.handed) := by
  have hnil {heard : List (StreamCommand P.Write)} (hheard : heard <+: s.queued) :
      commandMessages heard = [] := by
    have hprefix : commandMessages heard <+: commandMessages s.queued := hheard.filterMap _
    rw [hquiet] at hprefix
    exact List.prefix_nil.1 hprefix
  constructor
  · obtain ⟨heard, hheard, given, hgiven, haccepted⟩ := h.served
    rw [hnil hheard] at haccepted
    rwa [haccepted.eq_of_nil_right]
  · intro hrunning
    obtain ⟨heard, hheard, -, haccepted⟩ := h.serves hrunning
    rw [hnil (hheard ▸ List.prefix_append _ _)] at haccepted
    exact haccepted.eq_of_nil_right

/-- What is encoded went through the outbound stages. -/
theorem Sender.encoded (h : s.Sender S Able word) (hrender : s.Rendering outbound) :
    s.rt.io.encoded <+: P.render.outputs outbound s.rt.io.history.accepted ∧
      (s.status.isRunning = true →
        s.rt.io.encoded = P.render.outputs outbound s.rt.io.history.accepted) := by
  constructor
  · exact hrender.rendered.trans (Transducer.outputs_mono h.order)
  · intro hrunning
    have horder := (h.settled hrunning).rests.io.order
    rw [messages_nil, List.append_nil] at horder
    rw [horder, (hrender.renders hrunning).outputs]

end StreamChannel

namespace TcpPeers
open StreamStages StreamChannel

variable {env : Surroundings} {s t : TcpPeers P Q} {actions : List (PeersAction P Q)}

/-- What the steps of a task and its channel keep, holds of both ends. -/
theorem run_ends {inv : StreamChannel P → Prop} {inv' : StreamChannel Q → Prop}
    (hleft : ∀ s action u, inv s → StreamChannel.step env s action = some u → inv u)
    (hright : ∀ s action u, inv' s → StreamChannel.step env s action = some u → inv' u)
    (hs : inv s.left.channel ∧ inv' s.right.channel) (hrun : (step env).run s actions = some t) :
    inv t.left.channel ∧ inv' t.right.channel := by
  refine Machine.run_invariant (fun s => inv s.left.channel ∧ inv' s.right.channel) hs
    (fun action _ u v hu hv => ?_) hrun
  obtain ⟨hl, hr⟩ := hu
  cases action with
  | left action =>
    obtain ⟨left, hstep, rfl⟩ := Option.map_eq_some_iff.1 hv
    exact ⟨hleft _ _ _ hl (TcpEnd.step_eq_some hstep).2.1, hr⟩
  | right action =>
    obtain ⟨right, hstep, rfl⟩ := Option.map_eq_some_iff.1 hv
    exact ⟨hl, hright _ _ _ hr (TcpEnd.step_eq_some hstep).2.1⟩

/-- Both tasks run, all that was put into the channel of the client has been taken out of it, and
all that was sent has been read. -/
structure Quiet (t : TcpPeers P Q) : Prop where
  left : t.left.isRunning = true
  right : t.right.isRunning = true
  queue : t.left.channel.queue = []
  forth : t.right.taken = t.left.sent.length
  back : t.left.taken = t.right.sent.length

/-- Whether a connection is at rest can be seen. -/
def isQuiet (t : TcpPeers P Q) : Bool :=
  t.left.isRunning && t.right.isRunning && t.left.channel.queue.isEmpty &&
    t.right.taken == t.left.sent.length && t.left.taken == t.right.sent.length

theorem quiet_iff : t.Quiet ↔ t.isQuiet = true := by
  simp only [isQuiet, Bool.and_eq_true, List.isEmpty_iff, beq_iff_eq]
  exact ⟨fun h => ⟨⟨⟨⟨h.left, h.right⟩, h.queue⟩, h.forth⟩, h.back⟩,
    fun ⟨⟨⟨⟨hleft, hright⟩, hqueue⟩, hforth⟩, hback⟩ => ⟨hleft, hright, hqueue, hforth, hback⟩⟩

theorem serving_new {reply : P.Reply} (stream : TcpStream) (pipeline : StreamPipeline P)
    (config : TcpConnectionConfig) (tracked : Bool) :
    (StreamChannel.new stream pipeline config tracked).Serving reply
      (pipeline.inbound, pipeline.business, pipeline.handler) :=
  ⟨⟨[], List.prefix_rfl, [], List.prefix_rfl, .nil⟩, fun _ => ⟨[], rfl, rfl, .nil⟩⟩

theorem rendering_new (stream : TcpStream) (pipeline : StreamPipeline P)
    (config : TcpConnectionConfig) (tracked : Bool) :
    (StreamChannel.new stream pipeline config tracked).Rendering pipeline.outbound :=
  ⟨List.prefix_rfl, fun _ => rfl⟩

variable {S : P.C → Prop} {T : Q.C → Prop} {Able Good : P.CurrentOut → Prop}
  {word : P.CurrentOut → Bytes} {item : P.CurrentOut → Q.Item} {Able' Good' : Q.CurrentOut → Prop}
  {word' : Q.CurrentOut → Bytes} {item' : Q.CurrentOut → P.Item}
  {g : P.H → P.CurrentIn → FnFuture P.H Unit} {f : Q.H → Q.CurrentIn → FnFuture Q.H Q.Write}

/-- The accounts of a client and its server. -/
structure Exchanging (S : P.C → Prop) (T : Q.C → Prop) (Able Good : P.CurrentOut → Prop)
    (word : P.CurrentOut → Bytes) (item : P.CurrentOut → Q.Item)
    (Able' Good' : Q.CurrentOut → Prop) (word' : Q.CurrentOut → Bytes)
    (item' : Q.CurrentOut → P.Item) (g : P.H → P.CurrentIn → FnFuture P.H Unit)
    (f : Q.H → Q.CurrentIn → FnFuture Q.H Q.Write) (pipeline : StreamPipeline P)
    (pipeline' : StreamPipeline Q) (t : TcpPeers P Q) : Prop where
  forth : Linked S T Able Good word item t.left t.right
  back : Linked T S Able' Good' word' item' t.right t.left
  client : t.left.channel.Serving (consumeBy g)
    (pipeline.inbound, pipeline.business, pipeline.handler)
  server : t.right.channel.Serving (respondBy f)
    (pipeline'.inbound, pipeline'.business, pipeline'.handler)
  requests : t.left.channel.Rendering pipeline.outbound
  responses : t.right.channel.Rendering pipeline'.outbound

theorem run_exchanging (link : Link P Q S T Able Good word item)
    (link' : Link Q P T S Able' Good' word' item')
    (hclient : P.read = fun handler msg => (g handler msg).consume)
    (hserver : Q.read = fun handler msg => (f handler msg).respond)
    {faults faults' : List (Option (Nat × String))} {pipeline : StreamPipeline P}
    {pipeline' : StreamPipeline Q} {config config' : TcpConnectionConfig} {tracked tracked' : Bool}
    (hS : S pipeline.codec) (hT : T pipeline'.codec)
    (hrun : (step env).run (new (.new { faults } pipeline config tracked)
      (.new { faults := faults' } pipeline' config' tracked')) actions = some t) :
    Exchanging S T Able Good word item Able' Good' word' item' g f pipeline pipeline' t := by
  obtain ⟨forth, back⟩ := run_linked link link' env faults faults' pipeline pipeline' config config'
    tracked tracked' hS hT actions hrun
  obtain ⟨client, server⟩ := run_ends
    (fun _ _ _ hs hstep => hs.step (repliesBy_consume hclient) hstep)
    (fun _ _ _ hs hstep => hs.step (repliesBy_respond hserver) hstep)
    ⟨serving_new _ pipeline _ _, serving_new _ pipeline' _ _⟩ hrun
  obtain ⟨requests, responses⟩ := run_ends (fun _ _ _ hs hstep => hs.step hstep)
    (fun _ _ _ hs hstep => hs.step hstep)
    ⟨rendering_new _ pipeline _ _, rendering_new _ pipeline' _ _⟩ hrun
  exact { forth, back, client, server, requests, responses }

/-- The client is handed the responses to its requests. -/
theorem Exchanging.answered {pipeline : StreamPipeline P} {pipeline' : StreamPipeline Q}
    (h : Exchanging S T Able Good word item Able' Good' word' item' g f pipeline pipeline' t)
    (hserved : commandMessages t.right.channel.queued = [])
    (hgood : ∀ m ∈ t.left.channel.requests pipeline.outbound, Good m)
    (hgood' : ∀ m ∈ Q.responses f pipeline' ((t.left.channel.requests pipeline.outbound).map item),
      Good' m) :
    let responses := Q.responses f pipeline' ((t.left.channel.requests pipeline.outbound).map item)
    t.left.handed <+: responses.map item' ∧ (t.Quiet → t.left.handed = responses.map item' ∧
      t.right.handed = (t.left.channel.requests pipeline.outbound).map item) := by
  intro responses
  have hrender := h.forth.sender.encoded h.requests
  have hrender' := h.back.sender.encoded h.responses
  have htold := h.client.accepted_consume
  have hgave := h.server.accepted_respond hserved
  -- The client writes its requests, the server is handed them and writes the responses.
  have hrequests : t.left.written <+: t.left.channel.requests pipeline.outbound :=
    hrender.1.trans (Transducer.outputs_mono htold.1)
  have hconveyed := h.forth.conveyed fun m hm => hgood m (hrequests.subset hm)
  have hresponses : t.right.written <+: responses :=
    hrender'.1.trans (Transducer.outputs_mono (hgave.1.trans (Transducer.outputs_mono
      (hconveyed.order.trans (hrequests.map item)))))
  have hconveyed' := h.back.conveyed fun m hm => hgood' m (hresponses.subset hm)
  refine ⟨hconveyed'.order.trans (hresponses.map item'), fun hquiet => ?_⟩
  have hall : t.left.written = t.left.channel.requests pipeline.outbound := by
    rw [StreamChannel.requests, ← htold.2 hquiet.left hquiet.queue]
    exact hrender.2 hquiet.left
  have hheard := (hconveyed.complete hquiet.left hquiet.right hquiet.forth).1
  rw [hall] at hheard
  have hanswered : t.right.written = responses := by
    have hwritten := hrender'.2 hquiet.right
    rw [hgave.2 hquiet.right] at hwritten
    exact hwritten.trans (congrArg (Q.responses f pipeline') hheard)
  rw [(hconveyed'.complete hquiet.right hquiet.left hquiet.back).1, hanswered]
  exact ⟨rfl, hheard⟩

/-- The pipeline of the client is handed the responses to its requests, in their order and each of
them once, and all of them when the connection comes to rest. -/
theorem run_exchanged (link : Link P Q S T Able Good word item)
    (link' : Link Q P T S Able' Good' word' item')
    (hclient : P.read = fun handler msg => (g handler msg).consume)
    (hserver : Q.read = fun handler msg => (f handler msg).respond) (env : Surroundings)
    (faults faults' : List (Option (Nat × String))) (pipeline : StreamPipeline P)
    (pipeline' : StreamPipeline Q) (config config' : TcpConnectionConfig) (tracked tracked' : Bool)
    (hS : S pipeline.codec) (hT : T pipeline'.codec)
    (hrun : (step env).run (new (.new { faults } pipeline config tracked)
      (.new { faults := faults' } pipeline' config' tracked')) actions = some t)
    (hserved : commandMessages t.right.channel.queued = [])
    (hgood : ∀ m ∈ t.left.channel.requests pipeline.outbound, Good m)
    (hgood' : ∀ m ∈ Q.responses f pipeline' ((t.left.channel.requests pipeline.outbound).map item),
      Good' m) :
    let responses := Q.responses f pipeline' ((t.left.channel.requests pipeline.outbound).map item)
    t.left.handed <+: responses.map item' ∧ (t.Quiet → t.left.handed = responses.map item') := by
  intro responses
  obtain ⟨horder, hall⟩ :=
    (run_exchanging link link' hclient hserver hS hT hrun).answered hserved hgood hgood'
  exact ⟨horder, fun hquiet => (hall hquiet).1⟩

/-- A server that numbers the requests. -/
theorem run_exchanged_numbered :
    let self : FixedLengthFrameDecoder := ⟨2, by decide⟩
    let client := FixedLengthFrameDecoder.codec.pipeline self
      (fun () _ => (FnFuture.ready (.ok ()) ()).consume) ()
    let server := FixedLengthFrameDecoder.codec.pipeline self
      (fun n frame => (FnFuture.ready (.ok (n :: frame.take 1)) (n + 1)).respond) (0 : UInt8)
    ∃ t, (step ⟨fun _ => "", 0⟩).run (new (.new {} client {} true) (.new {} server {} true))
        [.left (.write [7, 7]), .left (.writeAndFlush [8, 8]), .left .recv, .left .recv,
          .right (.read (.ok [7, 7, 8])), .right (.read (.ok [8])),
          .left (.read (.ok [0, 7, 1, 8]))] = some t ∧
      t.Quiet ∧ t.left.handed = [[0, 7], [1, 8]] := by
  intro self client server
  have hend : ((step ⟨fun _ => "", 0⟩).run (new (.new {} client {} true) (.new {} server {} true))
      [.left (.write [7, 7]), .left (.writeAndFlush [8, 8]), .left .recv, .left .recv,
        .right (.read (.ok [7, 7, 8])), .right (.read (.ok [8])),
        .left (.read (.ok [0, 7, 1, 8]))]).map (fun t => ((t.isQuiet,
          commandMessages t.left.channel.queued, commandMessages t.right.channel.queued) :
            Bool × List Bytes × List Bytes)) = some (true, [[7, 7], [8, 8]], []) := by
    decide +kernel
  obtain ⟨t, hrun, ht⟩ := Option.map_eq_some_iff.1 hend
  obtain ⟨hquiet, hqueued⟩ := Prod.mk.inj ht
  obtain ⟨hleft, hright⟩ := Prod.mk.inj hqueued
  have hexchanged := run_exchanged (self.understood.link _ _) (self.understood.link _ _) rfl rfl
    ⟨fun _ => "", 0⟩ [] [] client server {} {} true true rfl rfl hrun hright (fun _ _ => trivial)
    fun _ _ => trivial
  refine ⟨t, hrun, quiet_iff.2 hquiet, (hexchanged.2 (quiet_iff.2 hquiet)).trans ?_⟩
  rw [StreamChannel.requests, show commandMessages t.left.channel.queued = _ from hleft]
  rfl

end TcpPeers

end RsNetty

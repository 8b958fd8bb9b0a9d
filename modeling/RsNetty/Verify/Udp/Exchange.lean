import RsNetty.Codec.BytesDatagram
import RsNetty.Codec.Utf8Datagram
import RsNetty.Macros
import RsNetty.Verify.Udp.Replies

/-!
# Requests and responses over UDP

A socket that answers with the function of a `#[handler]` and one that only sends what comes through
its channel, among any others on a network that loses, repeats and reorders datagrams: whatever the
second one is handed from the first one's address is the response to a request of its own.
-/

namespace RsNetty
open Transducer DatagramStages

/-! ## Handlers made by `#[handler]` -/

namespace FnFuture
variable {H Out : Type}

theorem writes_respondTo (future : FnFuture H Out) (info : DatagramInfo) (flushes : Sender) :
    ((future.respondTo info).course flushes).writes =
      (future.returned.map fun r => (info.peerAddr, r.1)).toList := by
  induction future with
  | ready result handler => cases result <;> rfl
  | panic => rfl
  | suspend rest ih => exact ih

theorem ends_respondTo {future : FnFuture H Out} {info : DatagramInfo} {flushes : Sender}
    {handler : H} (h : ((future.respondTo info).course flushes).ends = some (.ok (), handler)) :
    ∃ response, future.returned = some (response, handler) := by
  induction future with
  | ready result handler =>
    cases result with
    | ok response =>
      cases h
      exact ⟨response, rfl⟩
    | error err => cases h
  | panic => cases h
  | suspend rest ih => exact ih h

theorem writes_consume {W : Type} (future : FnFuture H Unit) (flushes : Sender) :
    ((future.consume (W := W)).course flushes).writes = [] := by
  induction future with
  | ready result handler => cases result <;> rfl
  | panic => rfl
  | suspend rest ih => exact ih

end FnFuture

namespace DatagramCodec

variable {H Item Out : Type} {codec : DatagramCodec Item Out} {site : Site}

/-- The handler is where its function leads to on all that it was handed. -/
theorem replies_run {f : H → Item → FnFuture H Out} {handler next : H}
    {items : List (SocketAddr × Item)} (h : ((codec.replies
      (fun info handler item => (f handler item).respondTo info) site).run handler items).2 =
        some next) :
    ((FnFuture.machine f).run handler (items.map (·.2))).2 = some next := by
  induction items using List.reverseRecOn generalizing next with
  | nil => exact h
  | append_singleton items x ih =>
    obtain ⟨peer, item⟩ := x
    obtain ⟨before, middle, hbefore, hnext, -⟩ := Transducer.run_concat_eq_some (Prod.ext rfl h)
    obtain ⟨response, hreturned⟩ := FnFuture.ends_respondTo (replies_next hnext)
    rw [List.map_append, List.map_singleton, Transducer.run_concat_of_some
      (Prod.ext rfl (ih (congrArg (·.2) hbefore))), FnFuture.machine, hreturned]
    rfl

end DatagramCodec

/-! ## Nodes on a network -/

/-- The item is what a socket of this configuration gets from the encoding of the message. -/
def DatagramCodec.Carries {Item Out Item' Out' : Type} (codec : DatagramCodec Item Out)
    (codec' : DatagramCodec Item' Out') (config : UdpSocketConfig) (msg : Out) (item : Item') :
    Prop :=
  ∃ datagram, codec.encodeDatagram msg [] = .ok () datagram ∧
    codec'.received config datagram = some item

theorem DatagramCodec.mem_encoder {Item Out : Type} {codec : DatagramCodec Item Out}
    {msgs : List (SocketAddr × Out)} {peer : SocketAddr} {datagram : Bytes}
    (h : (peer, datagram) ∈ codec.encoder.outputs () msgs) :
    ∃ msg, (peer, msg) ∈ msgs ∧ codec.encodeDatagram msg [] = .ok () datagram := by
  obtain ⟨before, ⟨peer', msg⟩, after, _, rfl, -, hgiven⟩ := Transducer.exists_of_mem_outputs h
  simp only [encoder] at hgiven
  cases hencode : codec.encodeDatagram msg [] with
  | error e dst =>
    rw [hencode] at hgiven
    cases hgiven
  | ok _ dst =>
    rw [hencode] at hgiven
    dsimp only at hgiven
    split at hgiven
    · cases hgiven
    · obtain ⟨rfl, rfl⟩ := Prod.mk.inj (List.mem_singleton.1 hgiven)
      exact ⟨msg, List.mem_append_right _ (.head _), hencode⟩

namespace UdpNetwork

variable {ι : Type} {nodes : ι → DatagramNode}

/-- The nodes do what they are spawned for, on a network that makes up nothing. -/
abbrev Faithful (nodes : ι → DatagramNode) (t : UdpNetwork fun i => (nodes i).stages) : Prop :=
  t.Delivering (fun i => (nodes i).codec.pipeline (nodes i).read (nodes i).handler)
    fun i => (nodes i).site

variable {t : UdpNetwork fun i => (nodes i).stages} {i j : ι}

/-- Whatever a node was handed from another one was put into the channel of this one, or was written
by its handler when it was handed something itself. -/
theorem Faithful.origin (h : Faithful nodes t) {item : (nodes i).Item}
    (hitem : ((nodes j).localAddr, item) ∈ (t i).handed) : ∃ msg,
      (nodes j).codec.Carries (nodes i).codec (nodes i).config msg item ∧
      (((nodes i).localAddr, msg) ∈ messagesOf (t j).queued ∨
        ∃ before peer received after handler, (t j).handed = before ++ (peer, received) :: after ∧
          (((nodes j).codec.replies (nodes j).read (nodes j).site).run (nodes j).handler before).2 =
            some handler ∧
          ((nodes i).localAddr, msg) ∈ (((nodes j).read ((nodes j).site.info peer) handler
            received).course 0).writes) := by
  obtain ⟨part, hpart, -, hhanded⟩ := (h.serving i).within
  have hpartitem : ((nodes j).localAddr, item) ∈ handedOf part := by
    rw [← List.nil_append part, ← hhanded]
    exact hitem
  obtain ⟨datagram, hevent, hreceived⟩ := DatagramCodec.serve_handed hpart hpartitem
  obtain ⟨answers, told, hparts, hanswers, htold⟩ := DatagramNode.replied (h.serving j)
  rcases hparts.mem (h.arrived i j datagram hevent) with hanswer | htell
  · obtain ⟨before, ⟨peer, received⟩, after, handler, hbefore, hrun, hgiven⟩ :=
      Transducer.exists_of_mem_outputs (hanswers.subset hanswer)
    rw [DatagramCodec.replies_outputs] at hgiven
    obtain ⟨msg, hmsg, hencode⟩ := DatagramCodec.mem_encoder hgiven
    exact ⟨msg, ⟨datagram, hencode, hreceived⟩, .inr ⟨before, peer, received, after, handler,
      hbefore, congrArg (·.2) hrun, hmsg⟩⟩
  · obtain ⟨msg, hmsg, hencode⟩ := DatagramCodec.mem_encoder (htold.subset htell)
    exact ⟨msg, ⟨datagram, hencode, hreceived⟩, .inl hmsg⟩

theorem delivering_new (nodes : ι → DatagramNode) : Faithful nodes (new nodes) where
  serving i := DatagramChannel.serving_new ..
  arrived i k datagram harrived := by cases harrived

/-- A node whose handler only takes what it is handed, and one whose handler answers, both made by
`#[handler]`, among any others on a network that loses, repeats and reorders datagrams. Whatever the
first one is handed from the address of the second one is what this one was told by its channel, or
the response to a request that the first one was told by its own channel, as the function of the
handler gives it behind all the items that the handler got before. -/
theorem run_answered (haddr : Function.Injective fun i => (nodes i).localAddr) [Fintype ι]
    [DecidableEq ι] {client server : ι} {f : (nodes server).H → (nodes server).Item →
      FnFuture (nodes server).H (nodes server).CurrentOut}
    {g : (nodes client).H → (nodes client).Item → FnFuture (nodes client).H Unit}
    (hserver : (nodes server).read = fun info handler msg => (f handler msg).respondTo info)
    (hclient : (nodes client).read = fun _ handler msg => (g handler msg).consume)
    {actions : List (NetworkAction fun i => (nodes i).stages)}
    (hrun : Machine.run step (new nodes) actions = some t) {item : (nodes client).Item}
    (hitem : ((nodes server).localAddr, item) ∈ (t client).handed) : ∃ msg,
      (nodes server).codec.Carries (nodes client).codec (nodes client).config msg item ∧
      (((nodes client).localAddr, msg) ∈ messagesOf (t server).queued ∨
        ∃ before received after request handler next,
          (t server).handed = before ++ ((nodes client).localAddr, received) :: after ∧
          ((nodes server).localAddr, request) ∈ messagesOf (t client).queued ∧
          (nodes client).codec.Carries (nodes server).codec (nodes server).config request received ∧
          ((FnFuture.machine f).run (nodes server).handler (before.map (·.2))).2 = some handler ∧
          (f handler received).returned = some (msg, next)) := by
  have h : Faithful nodes t := Machine.run_invariant _ (delivering_new nodes)
    (fun _ _ _ _ hs hstep => hs.step haddr hstep) hrun
  obtain ⟨msg, hcarries, horigin⟩ := h.origin hitem
  refine ⟨msg, hcarries, horigin.imp id ?_⟩
  rintro ⟨before, peer, received, after, handler, hhanded, hbefore, hmsg⟩
  have hwrites := FnFuture.writes_respondTo (f handler received) ((nodes server).site.info peer) 0
  rw [hserver, hwrites] at hmsg
  obtain ⟨⟨response, next⟩, hresponse, hpeer⟩ :=
    Option.map_eq_some_iff.1 (Option.mem_toList.1 hmsg)
  obtain ⟨rfl, rfl⟩ : peer = (nodes client).localAddr ∧ response = msg := Prod.mk.inj hpeer
  have hreceived : ((nodes client).localAddr, received) ∈ (t server).handed :=
    hhanded ▸ List.mem_append_right _ (.head _)
  obtain ⟨request, hrequest, hasked⟩ := h.origin hreceived
  have hqueued : ((nodes server).localAddr, request) ∈ messagesOf (t client).queued := by
    refine hasked.resolve_right ?_
    rintro ⟨_, peer, item, _, handler, -, -, hwritten⟩
    rw [hclient, FnFuture.writes_consume] at hwritten
    cases hwritten
  rw [hserver] at hbefore
  exact ⟨before, received, after, request, handler, next, hhanded, hqueued, hrequest,
    DatagramCodec.replies_run hbefore, hresponse⟩

/-- A server that numbers its responses, and a client: the second request overtakes the first one
and is repeated, and of the three responses the third one arrives first. -/
theorem run_answered_overtaken :
    let f : UInt8 → Bytes → FnFuture UInt8 Bytes := fun handler msg =>
      .suspend (.ready (.ok (handler :: msg)) (handler + 1))
    let g : UInt8 → Bytes → FnFuture UInt8 Unit := fun handler _ => .ready (.ok ()) handler
    let nodes : Fin 2 → DatagramNode := fun i =>
      { H := UInt8, Item := Bytes, CurrentOut := Bytes
        codec := BytesDatagramCodec.codec
        read := fun info handler msg =>
          if i = 0 then (g handler msg).consume else (f handler msg).respondTo info
        handler := 0, id := 1, localAddr := ⟨[127, 0, 0, 1], if i = 0 then 9000 else 9001⟩
        faults := [], config := {}, outboundQueueSize := 2, hasShutdown := false }
    ∃ t, Machine.run step (new nodes)
        [.act 0 (.writeTo ⟨[127, 0, 0, 1], 9001⟩ ([7] : Bytes)),
          .act 0 (.writeTo ⟨[127, 0, 0, 1], 9001⟩ ([8] : Bytes)),
          .act 0 (.start (.ok ())), .act 0 (.started (.ok ())),
          .act 1 (.start (.ok ())), .act 1 (.started (.ok ())),
          .act 0 .recv, .act 0 .recv, .arrive 1 0 1, .arrive 1 0 0, .arrive 1 0 1,
          .arrive 0 1 2, .arrive 0 1 0] = some t ∧
      (t 0).handed = [(⟨[127, 0, 0, 1], 9001⟩, [2, 8]), (⟨[127, 0, 0, 1], 9001⟩, [0, 8])] ∧
      ∃ msg, BytesDatagramCodec.codec.Carries BytesDatagramCodec.codec {} msg [2, 8] ∧
        (((nodes 0).localAddr, msg) ∈ messagesOf (t 1).queued ∨
          ∃ before received after request handler next,
            (t 1).handed = before ++ ((nodes 0).localAddr, received) :: after ∧
            ((nodes 1).localAddr, request) ∈ messagesOf (t 0).queued ∧
            BytesDatagramCodec.codec.Carries BytesDatagramCodec.codec {} request received ∧
            ((FnFuture.machine f).run 0 (before.map (·.2))).2 = some handler ∧
            (f handler received).returned = some (msg, next)) := by
  intro f g nodes
  have hend : (Machine.run step (new nodes)
      [.act 0 (.writeTo ⟨[127, 0, 0, 1], 9001⟩ ([7] : Bytes)),
        .act 0 (.writeTo ⟨[127, 0, 0, 1], 9001⟩ ([8] : Bytes)),
        .act 0 (.start (.ok ())), .act 0 (.started (.ok ())),
        .act 1 (.start (.ok ())), .act 1 (.started (.ok ())),
        .act 0 .recv, .act 0 .recv, .arrive 1 0 1, .arrive 1 0 0, .arrive 1 0 1,
        .arrive 0 1 2, .arrive 0 1 0]).map
          (fun t => ((t 0).handed : List (SocketAddr × Bytes))) =
      some [(⟨[127, 0, 0, 1], 9001⟩, [2, 8]), (⟨[127, 0, 0, 1], 9001⟩, [0, 8])] := by
    decide +kernel
  obtain ⟨t, hrun, hhanded⟩ := Option.map_eq_some_iff.1 hend
  refine ⟨t, hrun, hhanded, ?_⟩
  exact run_answered (by decide) rfl rfl hrun (hhanded ▸ .head _)

end UdpNetwork

end RsNetty

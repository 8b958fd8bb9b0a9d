import RsNetty.Verify.Udp.Datagrams
import RsNetty.Verify.Udp.Isolation

/-!
# The peer that outbound stages see

A command builds the context of the outbound stages for the peer it writes to; a received datagram
builds it once, for its sender. The two agree for a handler that writes to the sender only.
-/

namespace RsNetty
open EStateM Traced

variable {P : DatagramStages}

namespace DatagramState

/-- The outbound stages were told where each message goes. -/
def Addressed (id : UInt64) (localAddr : SocketAddr) (s : DatagramState P) : Prop :=
  ∀ p ∈ s.processed, p.info = ⟨id, p.peer, localAddr⟩

/-- Messages for one peer wait, and no flush failed. -/
structure Replying (info : DatagramInfo) (commands : List (DatagramOutboxCommand P.Write))
    (s : DatagramState P) : Prop where
  addressed : s.Addressed info.id info.localAddr
  replies : ∀ msg ∈ messages commands, msg.1 = info.peerAddr
  acks : ∀ ack ∈ s.ctx.acks, ack.2 = .ok ()

/-- The handler on a message, if the stages let it through. -/
def handlerCall (info : DatagramInfo) (msg : P.Item) (s : DatagramState P) :
    Option (HandlerFuture P.H (SocketAddr × P.Write)) :=
  match P.inbound info msg s.pipeline.inbound with
  | .ok (.next msg) _ =>
    match P.business info msg s.pipeline.business with
    | .ok (.next msg) _ => some (P.read info s.pipeline.handler msg)
    | _ => none
  | _ => none

/-- The handler writes to the peer only; the socket task answers a flush with `Ok`. -/
def RepliesTo (peer : SocketAddr) (handler : HandlerFuture P.H (SocketAddr × P.Write)) : Prop :=
  handler.Writes (·.1 = peer) (· = .ok ())

variable {s : DatagramState P} {info : DatagramInfo} {id : UInt64} {localAddr : SocketAddr}

/-- A program that tells the outbound stages the right peer. -/
abbrev Addresses {α : Type} (id : UInt64) (localAddr : SocketAddr) (P₀ : DatagramState P → Prop)
    (x : Traced (Exit Error) (DatagramState P) α) (Q : α → DatagramState P → Prop) : Prop :=
  Triple (Addressed id localAddr) P₀ x Q fun _ => Addressed id localAddr

theorem Addressed.processing (h : s.Addressed id localAddr) (peer : SocketAddr) (msg : P.Write) :
    (s.processing ⟨id, peer, localAddr⟩ peer msg).Addressed id localAddr := by
  intro p hp
  rcases List.mem_append.1 hp with hp | hp
  · exact h p hp
  · rw [List.mem_singleton.1 hp]

theorem addresses_modify {f : DatagramState P → DatagramState P} {P₀ Q : DatagramState P → Prop}
    (hQ : ∀ s, Q s → s.Addressed id localAddr) (h : ∀ s, P₀ s → Q (f s)) :
    Addresses id localAddr P₀ (step (modify f)) fun _ => Q :=
  Triple.step fun s hs => ⟨hQ _ (h s hs), h s hs⟩

theorem flushDatagram_addresses {P₀ : DatagramState P → Prop}
    (hP : ∀ s, P₀ s → s.Addressed id localAddr)
    (hsocket : ∀ s socket, P₀ s → P₀ { s with socket })
    (hbuf : ∀ s writeBuf, P₀ s → P₀ { s with writeBuf }) (peer : SocketAddr) :
    Addresses id localAddr P₀ (await (flushDatagram peer)) fun _ => P₀ := by
  refine await_triple fun s hs => ?_
  rw [flushDatagram, get_bind]
  split
  · cases hsend : UdpSocket.sendTo s.writeBuf peer s.socket with
    | ok _ socket =>
      rw [bind_of_ok (zoom_of_ok (c := socketPart) hsend)]
      have := hbuf _ [] (hsocket s socket hs)
      exact ⟨hP _ this, this⟩
    | error e socket =>
      rw [bind_of_error (zoom_of_error (c := socketPart) hsend)]
      have := hsocket s socket hs
      exact ⟨hP _ this, hP _ this⟩
  · exact ⟨hP _ hs, hs⟩

theorem drainCommands_addresses (info : DatagramInfo)
    (commands : List (DatagramOutboxCommand P.Write)) :
    Addresses info.id info.localAddr (fun s => s.Replying info commands ∧ s.ctx.outbox = [])
      (drainCommands info commands) fun _ s => s.Replying info [] ∧ s.ctx.outbox = [] := by
  induction commands with
  | nil => exact Triple.pure fun s hs => hs
  | cons command commands ih =>
    let Q (s : DatagramState P) : Prop := s.Replying info commands ∧ s.ctx.outbox = []
    have hQ (s : DatagramState P) (hs : Q s) : s.Addressed info.id info.localAddr :=
      hs.1.addressed
    cases command with
    | write msg =>
      apply Triple.bind (Q := fun _ => Q)
      · refine addresses_modify hQ fun s ⟨hs, houtbox⟩ => ?_
        have hpeer : msg.1 = info.peerAddr := hs.replies msg List.mem_cons_self
        rw [hpeer]
        refine ⟨⟨hs.addressed.processing info.peerAddr msg.2, fun m hm => ?_, hs.acks⟩, houtbox⟩
        exact hs.replies m (List.mem_cons_of_mem _ hm)
      · intro _
        apply Triple.bind (Q := fun _ => Q)
        · refine await_zoom_triple hQ (fun _ => hQ) fun t s hs => ?_
          exact ⟨⟨hs.1.addressed, hs.1.replies, hs.1.acks⟩, hs.2⟩
        · intro _
          refine Triple.bind (flushDatagram_addresses hQ ?_ ?_ msg.1) fun _ => ih
          · exact fun s _ hs => ⟨⟨hs.1.addressed, hs.1.replies, hs.1.acks⟩, hs.2⟩
          · exact fun s _ hs => ⟨⟨hs.1.addressed, hs.1.replies, hs.1.acks⟩, hs.2⟩
    | flush done =>
      apply Triple.bind (Q := fun _ => Q)
      · refine addresses_modify hQ fun s ⟨hs, houtbox⟩ => ?_
        refine ⟨⟨hs.addressed, hs.replies, fun ack hack => ?_⟩, houtbox⟩
        rcases List.mem_append.1 hack with hack | hack
        · exact hs.acks ack hack
        · rw [List.mem_singleton.1 hack]
      · exact fun _ => ih

theorem drainDatagramOutbox_addresses (info : DatagramInfo) :
    Addresses (P := P) info.id info.localAddr (fun s => s.Replying info s.ctx.outbox)
      (drainDatagramOutbox info) fun _ s => s.Replying info s.ctx.outbox := by
  apply Triple.bind (Q := fun commands s => s.Replying info commands ∧ s.ctx.outbox = [])
  · exact await_triple fun s hs => ⟨hs.addressed, ⟨hs.addressed, hs.replies, hs.acks⟩, rfl⟩
  · intro commands
    refine (drainCommands_addresses info commands).mono (fun s hs => hs) ?_ fun _ s hs => hs
    intro _ s hs
    rw [hs.2]
    exact hs.1

/-! ## One datagram received -/

theorem mem_of_lookup {acks : Acks} {done : Sender} {ack : Except Error Unit}
    (h : acks.lookup done = some ack) : (done, ack) ∈ acks := by
  obtain ⟨l₁, l₂, rfl, -⟩ := List.lookup_eq_some_iff.1 h
  exact List.mem_append_right _ List.mem_cons_self

theorem runHandler_addresses (info : DatagramInfo) (msg : P.CurrentIn) (handler : P.H)
    (hreplies : RepliesTo info.peerAddr (P.read info handler msg)) :
    Addresses info.id info.localAddr
      (fun s => s.Replying info s.ctx.outbox ∧ s.pipeline.handler = handler) (runHandler info msg)
      fun _ => Addressed info.id info.localAddr := by
  refine Triple.look_bind fun s hs => ?_
  rw [hs.2]
  apply Triple.bind (Q := fun _ s => s.Replying info s.ctx.outbox)
  · refine Triple.pre ?_ (P := fun s => s.Replying info s.ctx.outbox) fun t ht => ht ▸ hs.1
    refine (handlerRuntime info).pollHandler_triple_of_writes ?_ ?_ ?_ ?_ ?_ ?_ ?_ ?_ _ hreplies
    · exact fun s hs => hs.addressed
    · intro msg s hmsg hs
      refine ⟨hs.addressed, fun m hm => ?_, hs.acks⟩
      change m ∈ messages (s.ctx.outbox ++ [.write msg]) at hm
      rw [messages_append] at hm
      rcases List.mem_append.1 hm with hm | hm
      · exact hs.replies m hm
      · rw [List.mem_singleton.1 hm]
        exact hmsg
    · refine await_triple fun s hs => ⟨hs.addressed, hs.addressed, fun m hm => ?_, hs.acks⟩
      change m ∈ messages (s.ctx.outbox ++ [.flush s.ctx.flushes]) at hm
      rw [messages_append, messages_flush, messages_nil, List.append_nil] at hm
      exact hs.replies m hm
    · exact fun s done ack hs hack => hs.acks _ (mem_of_lookup hack)
    · exact fun s hs => ⟨hs.addressed, hs.replies, hs.acks⟩
    · exact drainDatagramOutbox_addresses info
    · exact fun s hs => hs.addressed
    · exact fun s hs => hs.addressed
  · rintro ⟨result, handler⟩
    apply Triple.bind (Q := fun _ s => s.Replying info s.ctx.outbox)
    · exact addresses_modify (fun s hs => hs.addressed) fun s hs =>
        ⟨hs.addressed, hs.replies, hs.acks⟩
    · intro _
      apply Triple.bind (drainDatagramOutbox_addresses info)
      intro _
      exact propagate_triple (fun _ s _ hs => hs.addressed) fun _ s _ hs => hs.addressed

/-- A stage whose verdict on the state is known. -/
theorem addresses_stage {α τ : Type} {c : Component (DatagramState P) τ} {x : Exec τ α}
    (hc : ∀ t s, (c.set t s).processed = s.processed) (h : s.Addressed id localAddr) :
    Addresses id localAddr (· = s) (await (EStateM.zoom c x))
      fun a t => ∃ u, x (c.get s) = .ok a u ∧ t = c.set u s := by
  have haddressed (u : τ) : (c.set u s).Addressed id localAddr := by
    intro p hp
    rw [hc] at hp
    exact h p hp
  refine await_triple fun t ht => ?_
  subst ht
  unfold EStateM.zoom
  cases hx : x (c.get t) with
  | ok a u => exact ⟨haddressed u, u, rfl, rfl⟩
  | error e u => exact ⟨haddressed u, haddressed u⟩

theorem processInboundFlushable_addresses (info : DatagramInfo) (msg : P.Item)
    (hs : s.Replying info s.ctx.outbox)
    (hreplies : ∀ handler, s.handlerCall info msg = some handler → RepliesTo info.peerAddr handler) :
    Addresses info.id info.localAddr (· = s) (processInboundFlushable info msg)
      fun _ => Addressed info.id info.localAddr := by
  let s' : DatagramState P := { s with delivered := s.delivered ++ [(info.peerAddr, msg)] }
  apply Triple.bind (Q := fun _ => (· = s'))
  · refine Triple.step fun t ht => ?_
    subst ht
    exact ⟨hs.addressed, rfl⟩
  intro _
  have hs' : s'.Addressed info.id info.localAddr := hs.addressed
  apply Triple.bind (addresses_stage (fun t s => rfl) hs')
  intro flow
  cases flow with
  | stop => exact Triple.pure fun t ⟨u, hu, ht⟩ => ht ▸ hs.addressed
  | next msg₁ =>
    rintro t ⟨u, hu, rfl⟩
    have hu' : (inboundPart.set u s').Addressed info.id info.localAddr := hs.addressed
    refine Triple.bind (addresses_stage (fun t s => rfl) hu') (fun flow => ?_) _ rfl
    cases flow with
    | stop => exact Triple.pure fun t ⟨v, hv, ht⟩ => ht ▸ hs.addressed
    | next msg₂ =>
      rintro t ⟨v, hv, rfl⟩
      have hu : P.inbound info msg s.pipeline.inbound = .ok (.next msg₁) u := hu
      have hv : P.business info msg₁ s.pipeline.business = .ok (.next msg₂) v := hv
      have hcall : s.handlerCall info msg = some (P.read info s.pipeline.handler msg₂) := by
        simp only [handlerCall, hu, hv]
      refine runHandler_addresses info msg₂ s.pipeline.handler (hreplies _ hcall) _ ⟨?_, rfl⟩
      exact ⟨hs.addressed, hs.replies, hs.acks⟩

end DatagramState

/-! ## The socket task -/

namespace DatagramSocketRuntime
open DatagramState

variable {rt : DatagramSocketRuntime P}

/-- If the event brings a datagram to the handler, the handler answers only its sender. -/
def Replies (rt : DatagramSocketRuntime P) (event : SocketEvent P.Write) : Prop :=
  ∀ datagram peer msg s handler, event = .recv (.ok (datagram, peer)) →
    (rt.received datagram).length ≤ rt.config.maxDatagramSize →
    DatagramState.decodeDatagram (rt.received datagram) rt.io = .ok msg s →
    s.handlerCall (rt.info peer) msg = some handler → RepliesTo peer handler

/-- Each event of the run finds the task in a state where the handler only replies to it. -/
def RepliesThroughout (rt : DatagramSocketRuntime P) (events : List (SocketEvent P.Write)) : Prop :=
  ∀ before event after t, events = before ++ event :: after →
    (run before).result rt = .ok false t → t.Replies event

/-- The task of this socket, with what its pipeline works on in a state that `Q` allows. -/
structure On (id : UInt64) (localAddr : SocketAddr) (Q : DatagramState P → Prop)
    (rt : DatagramSocketRuntime P) : Prop where
  sameId : rt.id = id
  sameAddr : rt.localAddr = localAddr
  io : Q rt.io

/-- The outbound stages were told the right peers by this task. -/
abbrev Addressed (id : UInt64) (localAddr : SocketAddr) : DatagramSocketRuntime P → Prop :=
  On id localAddr (DatagramState.Addressed id localAddr)

variable {id : UInt64} {localAddr : SocketAddr}

abbrev TaskAddresses {α : Type} (id : UInt64) (localAddr : SocketAddr)
    (P₀ : DatagramSocketRuntime P → Prop) (x : SocketTask P α)
    (Q : α → DatagramSocketRuntime P → Prop) : Prop :=
  Triple (Addressed id localAddr) P₀ x Q fun _ => Addressed id localAddr

theorem onIo_addresses {α : Type} {x : Traced (Exit Error) (DatagramState P) α}
    {P₀ : DatagramState P → Prop} {Q : α → DatagramState P → Prop}
    (h : Addresses id localAddr P₀ x Q) :
    TaskAddresses id localAddr (On id localAddr P₀) (onIo x) fun a => On id localAddr (Q a) := by
  apply Triple.zoom
  intro rt hrt
  have hstates := h.watch (J := fun t => Addressed id localAddr (ioPart.set t rt)) fun t ht =>
    ⟨hrt.sameId, hrt.sameAddr, ht⟩
  refine hstates.mono (fun t ht => ht ▸ hrt.io) ?_ ?_
  · exact fun _ t ht => ⟨hrt.sameId, hrt.sameAddr, ht⟩
  · exact fun _ t ht => ⟨hrt.sameId, hrt.sameAddr, ht⟩

theorem modify_addresses {f : DatagramSocketRuntime P → DatagramSocketRuntime P}
    {P₀ : DatagramSocketRuntime P → Prop} (h : ∀ rt, P₀ rt → Addressed id localAddr (f rt)) :
    TaskAddresses id localAddr P₀ (step (modify f)) fun _ => Addressed id localAddr :=
  Triple.step fun rt hrt => ⟨h rt hrt, h rt hrt⟩

/-- A command builds the context for the peer that it writes to. -/
theorem writeMessage_addresses (peer : SocketAddr) (msg : P.Write) :
    TaskAddresses id localAddr (Addressed id localAddr) (writeMessage peer msg)
      fun _ => Addressed id localAddr := by
  have haddressed (s : DatagramState P) (hs : s.Addressed id localAddr) :
      s.Addressed id localAddr := hs
  apply Triple.bind (Q := fun _ => Addressed id localAddr)
  · exact modify_addresses fun rt hrt => ⟨hrt.sameId, hrt.sameAddr, hrt.io⟩
  · intro _
    refine Triple.look_keep fun rt hrt => ?_
    have hinfo : rt.info peer = ⟨id, peer, localAddr⟩ := by
      rw [info, hrt.sameId, hrt.sameAddr]
    rw [hinfo]
    apply Triple.bind (Q := fun _ => Addressed id localAddr)
    · exact onIo_addresses (addresses_modify haddressed fun s hs => hs.processing peer msg)
    · intro _
      apply Triple.bind (Q := fun _ => Addressed id localAddr)
      · exact onIo_addresses (await_zoom_triple haddressed (fun _ => haddressed) fun t s hs => hs)
      · intro _
        exact onIo_addresses (flushDatagram_addresses haddressed (fun s _ hs => hs)
          (fun s _ hs => hs) peer)

theorem handleCommand_addresses (cmd : Option (DatagramCommand P.Write)) :
    TaskAddresses id localAddr (Addressed id localAddr) (handleCommand cmd)
      fun _ => Addressed id localAddr := by
  cases cmd with
  | none => exact Triple.pure fun rt hrt => hrt
  | some cmd =>
    cases cmd with
    | close => exact Triple.pure fun rt hrt => hrt
    | writeTo peer msg =>
      exact Triple.bind (writeMessage_addresses peer msg) fun _ => Triple.pure fun rt hrt => hrt
    | writeToAndFlush peer msg done =>
      apply Triple.bind (Q := fun _ => Addressed id localAddr)
      · exact modify_addresses fun rt hrt => ⟨hrt.sameId, hrt.sameAddr, hrt.io⟩
      intro _
      have hanswer (result : Except Error Unit) (rt : DatagramSocketRuntime P)
          (hrt : rt.Addressed id localAddr) :
          Addressed id localAddr { rt with acks := rt.acks ++ [(done, result)] } :=
        ⟨hrt.sameId, hrt.sameAddr, hrt.io⟩
      apply report_triple (K := Addressed id localAddr) (writeMessage_addresses peer msg)
      · exact fun rt hrt => ⟨hanswer _ rt hrt, hanswer _ rt hrt⟩
      · exact fun _ rt hrt => ⟨hanswer _ rt hrt, hanswer _ rt hrt⟩
      · exact fun rt hrt => hrt
      · exact fun rt hrt => hrt
      · exact Triple.pure fun rt hrt => hrt

/-- A datagram for which the handler only replies. -/
theorem processDatagram_addresses (hrt : rt.Addressed id localAddr) (read : Bytes)
    (peer : SocketAddr)
    (hreplies : ∀ msg s handler, DatagramState.decodeDatagram read rt.io = .ok msg s →
      s.handlerCall (rt.info peer) msg = some handler → RepliesTo peer handler) :
    TaskAddresses id localAddr (· = rt) (processDatagram read peer)
      fun _ => Addressed id localAddr := by
  have hinfo : rt.info peer = ⟨id, peer, localAddr⟩ := by
    rw [info, hrt.sameId, hrt.sameAddr]
  rw [hinfo] at hreplies
  have hdecode : TaskAddresses id localAddr (· = rt)
      (onIo (await (DatagramState.decodeDatagram read))) fun msg => On id localAddr fun s =>
        DatagramState.decodeDatagram read rt.io = .ok msg s ∧ s.Addressed id localAddr := by
    refine (onIo_addresses (addresses_stage (fun t s => rfl) hrt.io)).mono ?_ ?_ fun _ t ht => ht
    · rintro t rfl
      exact ⟨hrt.sameId, hrt.sameAddr, rfl⟩
    · rintro msg t ⟨hid, haddr, u, hu, hio⟩
      refine ⟨hid, haddr, ?_, ?_⟩
      · rw [DatagramState.decodeDatagram, zoom_of_ok hu, hio]
      · rw [hio]
        exact hrt.io
  apply Triple.bind hdecode
  intro msg
  apply Triple.bind (Q := fun _ => On id localAddr fun s => ∃ s', s = { s' with ctx := {} } ∧
    DatagramState.decodeDatagram read rt.io = .ok msg s' ∧ s'.Addressed id localAddr)
  · refine Triple.step fun t ht => ?_
    exact ⟨⟨ht.sameId, ht.sameAddr, ht.io.2⟩, ht.sameId, ht.sameAddr, _, rfl, ht.io⟩
  intro _
  refine Triple.look_bind fun t ht => ?_
  obtain ⟨s', hs', hdecoded, haddressed⟩ := ht.io
  have hinfo' : t.info peer = ⟨id, peer, localAddr⟩ := by
    rw [info, ht.sameId, ht.sameAddr]
  rw [hinfo']
  have hcall : Addresses id localAddr (· = t.io)
      (processInboundFlushable ⟨id, peer, localAddr⟩ msg)
      fun _ => DatagramState.Addressed id localAddr := by
    refine processInboundFlushable_addresses ⟨id, peer, localAddr⟩ msg ?_ ?_
    · rw [hs']
      exact ⟨haddressed, fun m hm => (List.not_mem_nil hm).elim, fun a ha =>
        (List.not_mem_nil ha).elim⟩
    · intro handler hhandler
      rw [hs'] at hhandler
      exact hreplies msg s' handler hdecoded hhandler
  apply Triple.bind (Q := fun _ => Addressed id localAddr)
  · refine (onIo_addresses hcall).pre fun u hu => ?_
    subst hu
    exact ⟨ht.sameId, ht.sameAddr, rfl⟩
  · exact fun _ => Triple.look_keep fun _ _ => Triple.pure fun _ hu => hu

theorem select_addresses (hrt : rt.Addressed id localAddr) {event : SocketEvent P.Write}
    (hreplies : rt.Replies event) :
    TaskAddresses id localAddr (· = rt) (select event) fun _ => Addressed id localAddr := by
  cases event with
  | recv read =>
    cases read with
    | error err => exact Triple.fail fun t ht => ht ▸ hrt
    | ok datagram =>
      obtain ⟨datagram, peer⟩ := datagram
      refine Triple.look_bind fun t ht => ?_
      subst ht
      dsimp only
      split
      · exact Triple.fail fun t ht => ht ▸ hrt
      next hlen =>
        exact processDatagram_addresses hrt _ peer fun msg s handler hd hh =>
          hreplies datagram peer msg s handler rfl (Nat.not_lt.1 hlen) hd hh
  | command cmd => exact (handleCommand_addresses cmd).pre fun t ht => ht ▸ hrt
  | shutdown => exact Triple.pure fun t ht => ht ▸ hrt

theorem run_addresses (events : List (SocketEvent P.Write)) (hrt : rt.Addressed id localAddr)
    (hreplies : rt.RepliesThroughout events) :
    TaskAddresses id localAddr (· = rt) (run events) fun _ => Addressed id localAddr := by
  induction events generalizing rt with
  | nil => exact Triple.pure fun t ht => ht ▸ hrt
  | cons event events ih =>
    have hselect := select_addresses hrt (hreplies [] event events rt rfl rfl)
    refine Triple.bind_named hselect fun stopped t hresult ht => ?_
    cases stopped with
    | true => exact Triple.pure fun u hu => hu ▸ ht
    | false =>
      refine ih ht fun before event' after u hevents hrun => ?_
      refine hreplies (event :: before) event' after u (congrArg (event :: ·) hevents) ?_
      rw [run_cons, hresult]
      exact hrun

/-- The outbound stages were told the peer of each message. So what the stages and the encoder make
of a message for a peer depends on their states only. -/
structure PeersSeen (rt : DatagramSocketRuntime P) : Prop where
  peer : ∀ p ∈ rt.io.processed, p.info.peerAddr = p.peer
  same : ∀ p ∈ rt.io.processed, ∀ q ∈ rt.io.processed, p.peer = q.peer → p.msg = q.msg →
    p.outbound = q.outbound → p.codec = q.codec → p.datagram? = q.datagram?

theorem Addressed.peersSeen (h : rt.Addressed id localAddr) : rt.PeersSeen where
  peer p hp := by rw [h.io p hp]
  same p hp q hq hpeer hmsg houtbound hcodec := by
    have hinfo : p.info = q.info := by rw [h.io p hp, h.io q hq, hpeer]
    rw [ProcessedDatagram.datagram?, ProcessedDatagram.datagram?, hinfo, hpeer, hmsg, houtbound, hcodec]

/-- The outbound stages see the right peer in every run in which the handler writes to nobody but
the sender of the datagram it handles. -/
theorem run_peersSeen (id : UInt64) (localAddr : SocketAddr) (pipeline : DatagramPipeline P)
    (config : UdpSocketConfig) (events : List (SocketEvent P.Write))
    (h : (new id localAddr {} pipeline config).RepliesThroughout events) :
    let rt := new id localAddr {} pipeline config
    (∀ t ∈ rt :: (run events).visited rt, t.PeersSeen) ∧
      ((run events).result rt).final.PeersSeen := by
  intro rt
  have hrt : rt.Addressed id localAddr := ⟨rfl, rfl, fun p hp => (List.not_mem_nil hp).elim⟩
  obtain ⟨hvisited, hresult⟩ := run_addresses events hrt h rt rfl
  constructor
  · intro t ht
    rcases List.mem_cons.1 ht with rfl | ht
    · exact hrt.peersSeen
    · exact (hvisited t ht).peersSeen
  · cases hr : (run events).result rt with
    | ok stopped t => rw [hr] at hresult; exact Addressed.peersSeen hresult
    | error e t => rw [hr] at hresult; exact Addressed.peersSeen hresult

/-- An echo server that also serves a channel. -/
theorem run_peersSeen_echo :
    let rt := new 1 ⟨[127, 0, 0, 1], 9000⟩ {} BytesDatagramCodec.echoPipeline {}
    let events := [.recv (.ok ([104, 105], ⟨[127, 0, 0, 1], 9001⟩)),
      .command (some (.writeTo ⟨[127, 0, 0, 1], 9002⟩ [104, 105]))]
    ((∀ t ∈ rt :: (run events).visited rt, t.PeersSeen) ∧
      ((run events).result rt).final.PeersSeen) ∧
      ((run events).result rt).final.io.socket.sent =
        [(⟨[127, 0, 0, 1], 9001⟩, [104, 105]), (⟨[127, 0, 0, 1], 9002⟩, [104, 105])] := by
  refine ⟨run_peersSeen _ _ _ _ _ ?_, by decide +kernel⟩
  rintro before event after t - - datagram peer msg s handler - - - hhandler
  cases hhandler
  exact ⟨rfl, trivial⟩

/-- A handler forwards to a second peer, behind a stage that lets messages for port 9001 through only.
The stage is told the sender, so the message goes out; the channel cannot send it to the same
peer. -/
theorem not_peersSeen_forward :
    let P : DatagramStages := { BytesDatagramCodec.echo with
      read := fun _ handler msg => .write (⟨[127, 0, 0, 1], 9002⟩, msg) (.ready (.ok ()) handler)
      outbound := fun info msg =>
        return if info.peerAddr.port = 9001 then .next msg else .stop }
    let rt : DatagramSocketRuntime P := new 1 ⟨[127, 0, 0, 1], 9000⟩ {} ⟨(), (), (), (), ()⟩ {}
    let recv := .recv (.ok ([104, 105], ⟨[127, 0, 0, 1], 9001⟩))
    let write := .command (some (.writeTo ⟨[127, 0, 0, 1], 9002⟩ ([104, 105] : Bytes)))
    ((run [recv]).result rt).final.io.socket.sent = [(⟨[127, 0, 0, 1], 9002⟩, [104, 105])] ∧
      ((run [write]).result rt).final.io.socket.sent = [] ∧
      ¬((run [recv]).result rt).final.PeersSeen := by
  intro P rt recv write
  have hprocessed : ((run [recv]).result rt).final.io.processed.map
      (fun p => (p.info.peerAddr, p.peer)) =
        [(⟨[127, 0, 0, 1], 9001⟩, ⟨[127, 0, 0, 1], 9002⟩)] := by decide +kernel
  refine ⟨by decide +kernel, by decide, fun h => ?_⟩
  have hseen : ∀ x ∈ ((run [recv]).result rt).final.io.processed.map
      (fun p => (p.info.peerAddr, p.peer)), x.1 = x.2 := by
    intro x hx
    obtain ⟨p, hp, rfl⟩ := List.mem_map.1 hx
    exact h.peer p hp
  rw [hprocessed] at hseen
  exact absurd (hseen _ List.mem_cons_self) (by decide)

end DatagramSocketRuntime

end RsNetty

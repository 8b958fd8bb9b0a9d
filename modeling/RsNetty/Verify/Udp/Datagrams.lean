import RsNetty.Codec.BytesDatagram
import RsNetty.Verify.Acknowledgement
import RsNetty.Verify.Udp.Rules

/-!
# The datagrams of a UDP socket

Each message goes through the outbound stages and the encoder into an empty `write_buf` and from
there to the socket. A buffer that is empty is not sent: neither that of a message which a stage
stopped nor that of a message whose encoding is empty.
-/

namespace RsNetty
open EStateM Traced

variable {P : DatagramStages}

namespace ProcessedDatagram

/-- The message with its peer. -/
def key (p : ProcessedDatagram P) : SocketAddr × P.Write := (p.peer, p.msg)

def run (p : ProcessedDatagram P) : EStateM.Result Fault (P.OutP × P.C × BytesMut) Unit :=
  P.outboundDatagram p.info p.msg (p.outbound, p.codec, [])

/-- No stage and no encoder refused the message. -/
def Accepted (p : ProcessedDatagram P) : Prop := ∃ s, p.run = .ok () s

/-- The datagram of a message that no stage stopped: its encoding, for its peer. -/
def datagram? (p : ProcessedDatagram P) : Option (SocketAddr × Bytes) :=
  match P.outbound p.info p.msg p.outbound with
  | .ok (.next out) _ =>
    match P.encodeDatagram out (p.codec, []) with
    | .ok _ (_, dst) => some (p.peer, dst)
    | .error _ _ => none
  | _ => none

/-- The encoding of the message is empty. -/
def Empty (p : ProcessedDatagram P) : Prop := p.datagram? = some (p.peer, [])

/-- What the message leaves in `write_buf`. -/
def payload (p : ProcessedDatagram P) : Bytes :=
  match p.datagram? with
  | some (_, dst) => dst
  | none => []

theorem datagram?_eq_some {p : ProcessedDatagram P} (h : p.datagram? = some d) :
    d = (p.peer, p.payload) := by
  rw [payload, h]
  unfold datagram? at h
  split at h
  · split at h
    · cases h
      rfl
    · cases h
  · cases h

/-- The buffer behind a message that was accepted. -/
theorem final_buffer {p : ProcessedDatagram P} (h : p.run = .ok () t) : t.2.2 = p.payload := by
  obtain ⟨flow, s, hflow, h⟩ := bind_eq_ok.1 h
  obtain ⟨outbound, houtbound, rfl⟩ := zoom_eq_ok.1 hflow
  have houtbound : P.outbound p.info p.msg p.outbound = .ok flow outbound := houtbound
  rw [payload, datagram?, houtbound]
  cases flow with
  | stop =>
    cases h
    rfl
  | next out =>
    obtain ⟨t', hencode, rfl⟩ := zoom_eq_ok.1 h
    have hencode : P.encodeDatagram out (p.codec, []) = .ok () t' := hencode
    simp only [hencode]
    rfl

/-- A message that was refused has no datagram. -/
theorem datagram?_of_error {p : ProcessedDatagram P} (h : p.run = .error e t) :
    p.datagram? = none := by
  unfold datagram?
  split
  next out outbound houtbound =>
    split
    next dst hencode =>
      have hflow : EStateM.zoom Component.fst (P.outbound p.info p.msg)
          (p.outbound, p.codec, ([] : BytesMut)) = .ok (.next out) (outbound, p.codec, []) :=
        zoom_of_ok houtbound
      have hok : EStateM.zoom Component.snd (P.encodeDatagram out) (outbound, p.codec, []) =
          .ok _ _ := zoom_of_ok hencode
      cases h.symm.trans ((bind_of_ok hflow).trans hok)
    next => rfl
  next => rfl

end ProcessedDatagram

/-- The datagrams to be sent for the messages. -/
def datagrams (processed : List (ProcessedDatagram P)) : List (SocketAddr × Bytes) :=
  processed.filterMap ProcessedDatagram.datagram?

/-- The datagrams that are sent. -/
def sentDatagrams (processed : List (ProcessedDatagram P)) : List (SocketAddr × Bytes) :=
  (datagrams processed).filter (·.2 ≠ [])

theorem sentDatagrams_eq_iff {ps : List (ProcessedDatagram P)} :
    sentDatagrams ps = datagrams ps ↔ ∀ p ∈ ps, ¬p.Empty := by
  rw [sentDatagrams, List.filter_eq_self]
  constructor
  · intro h p hp hempty
    have := h _ (List.mem_filterMap.2 ⟨p, hp, hempty⟩)
    simp at this
  · intro h d hd
    obtain ⟨p, hp, hsome⟩ := List.mem_filterMap.1 hd
    have heq := ProcessedDatagram.datagram?_eq_some hsome
    have hne : p.payload ≠ [] := by
      intro hpayload
      rw [heq, hpayload] at hsome
      exact h p hp hsome
    rw [heq]
    simpa using hne

theorem sentDatagrams_append (ps qs : List (ProcessedDatagram P)) :
    sentDatagrams (ps ++ qs) = sentDatagrams ps ++ sentDatagrams qs := by
  rw [sentDatagrams, datagrams, List.filterMap_append, List.filter_append]
  rfl

theorem sentDatagrams_single (p : ProcessedDatagram P) :
    sentDatagrams [p] = if p.payload ≠ [] then [(p.peer, p.payload)] else [] := by
  unfold sentDatagrams datagrams
  rw [List.filterMap_cons, List.filterMap_nil]
  cases h : p.datagram? with
  | none => simp [ProcessedDatagram.payload, h]
  | some d =>
    cases ProcessedDatagram.datagram?_eq_some h
    by_cases hempty : p.payload = []
    · simp [hempty]
    · simp [hempty]

namespace DatagramState

/-- The first `n` messages accepted are processed, and their datagrams are sent. -/
def Covers (n : Nat) (s : DatagramState P) : Prop :=
  ∃ ps, ps <+: s.processed ∧ n ≤ ps.length ∧ (∀ p ∈ ps, p.Accepted) ∧
    sentDatagrams ps <+: s.socket.sent

/-- What stays true while messages are accepted, processed and sent. -/
structure Promise (P : DatagramStages) where
  holds : DatagramState P → Prop
  stable {s t : DatagramState P} : holds s → s.accepted <+: t.accepted →
    s.processed <+: t.processed → s.socket.sent <+: t.socket.sent → holds t

/-- What an observer may rely on: at most one message is processed and not yet sent. -/
structure Visible (promise : Promise P) (s : DatagramState P) : Prop where
  sent : ∃ ps rest, s.processed = ps ++ rest ∧ rest.length ≤ 1 ∧ s.socket.sent = sentDatagrams ps
  order : s.processed.map (·.key) <+: s.accepted
  acks : s.ctx.acks.Sound s.ctx.asked (Covers · s)
  kept : promise.holds s

/-- The messages of the commands are all that is accepted and not processed. -/
structure Account (promise : Promise P) (outbox commands : List (DatagramOutboxCommand P.Write))
    (s : DatagramState P) : Prop where
  outbox : s.ctx.outbox = outbox
  order : s.accepted = s.processed.map (·.key) ++ messages commands
  asked : Asked s.ctx.asked s.accepted.length commands
  acks : s.ctx.acks.Sound s.ctx.asked (Covers · s)
  kept : promise.holds s
  reliable : s.socket.faults = []

/-- All that is processed is sent. -/
structure Settled (promise : Promise P) (outbox commands : List (DatagramOutboxCommand P.Write))
    (s : DatagramState P) : Prop where
  account : s.Account promise outbox commands
  sent : s.socket.sent = sentDatagrams s.processed
  empty : s.writeBuf = []
  encoded : ∀ p ∈ s.processed, p.Accepted

/-- A message is about to go through the outbound stages. -/
def Pending (promise : Promise P) (info : DatagramInfo) (peer : SocketAddr) (msg : P.Write)
    (outbox commands : List (DatagramOutboxCommand P.Write)) (s : DatagramState P) : Prop :=
  ∃ t : DatagramState P, t.Settled promise outbox (.write (peer, msg) :: commands) ∧
    s = t.processing info peer msg

/-- The payload of the last message is in the buffer. -/
structure Buffered (promise : Promise P) (peer : SocketAddr)
    (outbox commands : List (DatagramOutboxCommand P.Write)) (s : DatagramState P) : Prop where
  account : s.Account promise outbox commands
  last : ∃ ps p, s.processed = ps ++ [p] ∧ s.socket.sent = sentDatagrams ps ∧ p.peer = peer ∧
    s.writeBuf = p.payload
  encoded : ∀ p ∈ s.processed, p.Accepted

/-- A program that ended early has sent what it could. -/
def Halted (promise : Promise P) (s : DatagramState P) : Prop :=
  s.Visible promise ∧ s.socket.sent = sentDatagrams s.processed

variable {promise : Promise P} {s t : DatagramState P} {n : Nat} {info : DatagramInfo}
  {peer : SocketAddr} {msg : P.Write} {outbox commands : List (DatagramOutboxCommand P.Write)}

theorem Covers.mono (h : Covers n s) (hprocessed : s.processed <+: t.processed)
    (hsent : s.socket.sent <+: t.socket.sent) : Covers n t := by
  obtain ⟨ps, hps, hn, hencoded, hdatagrams⟩ := h
  exact ⟨ps, hps.trans hprocessed, hn, hencoded, hdatagrams.trans hsent⟩

theorem Promise.frame (promise : Promise P) (h : promise.holds s)
    (haccepted : s.accepted = t.accepted) (hprocessed : s.processed = t.processed)
    (hsent : s.socket.sent = t.socket.sent) : promise.holds t :=
  promise.stable h (haccepted ▸ List.prefix_rfl) (hprocessed ▸ List.prefix_rfl)
    (hsent ▸ List.prefix_rfl)

theorem Settled.halted (h : s.Settled promise outbox commands) : s.Halted promise := by
  refine ⟨⟨?_, ?_, h.account.acks, h.account.kept⟩, h.sent⟩
  · exact ⟨s.processed, [], (List.append_nil _).symm, Nat.zero_le _, h.sent⟩
  · exact ⟨_, h.account.order.symm⟩

theorem Settled.visible (h : s.Settled promise outbox commands) : s.Visible promise := h.halted.1

theorem Buffered.visible (h : s.Buffered promise peer outbox commands) : s.Visible promise := by
  obtain ⟨ps, p, hp, hsent, -, -⟩ := h.last
  exact ⟨⟨ps, [p], hp, Nat.le_refl _, hsent⟩, ⟨_, h.account.order.symm⟩, h.account.acks,
    h.account.kept⟩

/-- The account once the first of the messages is processed. -/
theorem Settled.processing (h : s.Settled promise outbox (.write (peer, msg) :: commands))
    (info : DatagramInfo) :
    (s.processing info peer msg).Account promise outbox commands where
  outbox := h.account.outbox
  order := by
    change s.accepted = (s.processed ++ [_]).map ProcessedDatagram.key ++ _
    rw [h.account.order, List.map_append, List.append_assoc]
    rfl
  asked := h.account.asked
  acks := h.account.acks.mono (List.Subset.refl _) fun _ hn =>
    hn.mono (List.prefix_append _ _) List.prefix_rfl
  kept := promise.stable h.account.kept List.prefix_rfl (List.prefix_append _ _) List.prefix_rfl
  reliable := h.account.reliable

theorem Pending.visible (h : s.Pending promise info peer msg outbox commands) :
    s.Visible promise := by
  obtain ⟨t, ht, rfl⟩ := h
  have haccount := ht.processing info
  exact ⟨⟨t.processed, [_], rfl, Nat.le_refl _, ht.sent⟩, ⟨_, haccount.order.symm⟩, haccount.acks,
    haccount.kept⟩

/-! ## One message -/

/-- A program on the socket that sends one datagram for each message it processes. -/
abbrev Sends {α : Type} (promise : Promise P) (P₀ : DatagramState P → Prop)
    (x : Traced (Exit Error) (DatagramState P) α) (Q : α → DatagramState P → Prop) : Prop :=
  Triple (Visible promise) P₀ x Q fun _ => Halted promise

theorem sends_modify {f : DatagramState P → DatagramState P} {P₀ Q : DatagramState P → Prop}
    (hQ : ∀ s, Q s → s.Visible promise) (h : ∀ s, P₀ s → Q (f s)) :
    Sends promise P₀ (step (modify f)) fun _ => Q :=
  Triple.step fun s hs => ⟨hQ _ (h s hs), h s hs⟩

theorem processing_sends (info : DatagramInfo) (peer : SocketAddr) (msg : P.Write)
    (outbox commands : List (DatagramOutboxCommand P.Write)) :
    Sends promise (Settled promise outbox (.write (peer, msg) :: commands))
      (step (modify (processing info peer msg)))
      fun _ => Pending promise info peer msg outbox commands :=
  sends_modify (fun _ => Pending.visible) fun s hs => ⟨s, hs, rfl⟩

theorem encodeDatagramOutbound_sends (info : DatagramInfo) (peer : SocketAddr) (msg : P.Write)
    (outbox commands : List (DatagramOutboxCommand P.Write)) :
    Sends promise (Pending promise info peer msg outbox commands)
      (await (encodeDatagramOutbound info msg)) fun _ => Buffered promise peer outbox commands := by
  refine await_triple_of_holds (fun _ _ => Buffered.visible) (fun _ ht => ht.1) ?_
  intro s hs
  have hvisible := hs.visible
  obtain ⟨t, ht, rfl⟩ := hs
  have haccount := ht.processing info
  let p : ProcessedDatagram P := ⟨info, peer, t.pipeline.outbound, t.pipeline.codec, msg⟩
  have hget : P.outboundDatagram info msg (outboundPart.get (t.processing info peer msg)) = p.run := by
    rw [show outboundPart.get (t.processing info peer msg) =
      (t.pipeline.outbound, t.pipeline.codec, t.writeBuf) from rfl, ht.empty]
    rfl
  rw [encodeDatagramOutbound, EStateM.zoom, hget]
  cases hrun : p.run with
  | ok _ u =>
    refine ⟨⟨haccount.outbox, haccount.order, haccount.asked, haccount.acks,
      promise.frame haccount.kept rfl rfl rfl, haccount.reliable⟩, ?_, ?_⟩
    · exact ⟨t.processed, p, rfl, ht.sent, rfl, ProcessedDatagram.final_buffer hrun⟩
    · intro q hq
      rcases List.mem_append.1 hq with hq | hq
      · exact ht.encoded q hq
      · rw [List.mem_singleton.1 hq]
        exact ⟨u, hrun⟩
  | error e u =>
    refine ⟨⟨hvisible.sent, hvisible.order, hvisible.acks,
      promise.frame hvisible.kept rfl rfl rfl⟩, ?_⟩
    change t.socket.sent = sentDatagrams (t.processed ++ [p])
    rw [sentDatagrams_append, sentDatagrams_single, ProcessedDatagram.payload,
      ProcessedDatagram.datagram?_of_error hrun, ht.sent]
    exact (List.append_nil _).symm

/-- What `flush_datagram` finds in the buffer is the datagram of the last message. -/
theorem flushDatagram_sends (peer : SocketAddr)
    (outbox commands : List (DatagramOutboxCommand P.Write)) :
    Sends promise (Buffered promise peer outbox commands) (await (flushDatagram (P := P) peer))
      fun _ => Settled promise outbox commands := by
  refine await_triple_of_holds (fun _ _ => Settled.visible) (fun _ ht => ht.1) ?_
  intro s hs
  obtain ⟨ps, p, hp, hsent, hpeer, hpayload⟩ := hs.last
  rw [flushDatagram, get_bind]
  by_cases hempty : s.writeBuf = []
  · rw [if_neg (not_not.2 hempty)]
    refine ⟨hs.account, ?_, hempty, hs.encoded⟩
    rw [hp, sentDatagrams_append, sentDatagrams_single, ← hpayload, if_neg (not_not.2 hempty),
      List.append_nil]
    exact hsent
  · have hsend : UdpSocket.sendTo s.writeBuf peer s.socket =
        .ok () { s.socket with sent := s.socket.sent ++ [(peer, s.writeBuf)] } := by
      unfold UdpSocket.sendTo
      split
      next => rfl
      next hfaults => cases hfaults.symm.trans hs.account.reliable
      next hfaults => cases hfaults.symm.trans hs.account.reliable
    rw [if_pos hempty, bind_of_ok (zoom_of_ok (c := socketPart) hsend)]
    refine ⟨⟨hs.account.outbox, hs.account.order, hs.account.asked, ?_, ?_, hs.account.reliable⟩, ?_,
      rfl, hs.encoded⟩
    · exact hs.account.acks.mono (List.Subset.refl _) fun _ hn =>
        hn.mono List.prefix_rfl (List.prefix_append _ _)
    · exact promise.stable hs.account.kept List.prefix_rfl List.prefix_rfl (List.prefix_append _ _)
    · change s.socket.sent ++ [(peer, s.writeBuf)] = sentDatagrams s.processed
      rw [hp, sentDatagrams_append, sentDatagrams_single, ← hpayload, if_pos hempty, hpeer, hsent]

/-! ## Draining the outbox -/

/-- While a handler runs, the messages of its outbox are to be processed. -/
def Staged (promise : Promise P) (s : DatagramState P) : Prop :=
  s.Settled promise s.ctx.outbox s.ctx.outbox

/-- The pipeline, what it was handed and the rest of the context are not part of the account. -/
theorem Settled.frame (h : s.Settled promise outbox commands) (ctx : DatagramContext P.Write)
    (hasked : s.ctx.asked = ctx.asked) (hacks : s.ctx.acks = ctx.acks)
    (pipeline : DatagramPipeline P) (delivered : List (SocketAddr × P.Item)) :
    Settled promise ctx.outbox commands { s with ctx, pipeline, delivered } where
  account := {
    outbox := rfl
    order := h.account.order
    asked := hasked ▸ h.account.asked
    acks := hasked ▸ hacks ▸ h.account.acks
    kept := promise.frame h.account.kept rfl rfl rfl
    reliable := h.account.reliable }
  sent := h.sent
  empty := h.empty
  encoded := h.encoded

/-- All that was accepted before a flush is sent once the commands before it are carried out. -/
theorem Settled.send {done : Sender} (h : s.Settled promise outbox (.flush done :: commands)) :
    Settled promise outbox commands { s with ctx := s.ctx.send done (.ok ()) } := by
  obtain ⟨⟨n, hn, hlength⟩, hasked⟩ := h.account.asked
  have horder := congrArg List.length h.account.order
  rw [List.length_append, List.length_map, messages_flush] at horder
  have hcovers : s.Covers n :=
    ⟨s.processed, List.prefix_rfl, by omega, h.encoded, h.sent ▸ List.prefix_rfl⟩
  refine ⟨⟨h.account.outbox, h.account.order, hasked, ?_, ?_, h.account.reliable⟩, h.sent, h.empty,
    h.encoded⟩
  · exact h.account.acks.concat fun _ => ⟨n, hn, hcovers⟩
  · exact promise.frame h.account.kept rfl rfl rfl

theorem Staged.pushWrite (h : s.Staged promise) (msg : SocketAddr × P.Write) :
    (s.pushWrite msg).Staged promise := by
  refine ⟨⟨rfl, ?_, ?_, h.account.acks, ?_, h.account.reliable⟩, h.sent, h.empty, h.encoded⟩
  · change s.accepted ++ [msg] = _ ++ messages (s.ctx.outbox ++ [.write msg])
    rw [h.account.order, messages_append, List.append_assoc]
    rfl
  · change Asked s.ctx.asked (s.accepted ++ [msg]).length (s.ctx.outbox ++ [.write msg])
    rw [List.length_append]
    exact h.account.asked.pushWrite msg
  · exact promise.stable h.account.kept (List.prefix_append _ _) List.prefix_rfl List.prefix_rfl

theorem pushFlush_sends :
    Sends (P := P) promise (Staged promise) (await pushFlush) fun _ => Staged promise := by
  refine await_triple_of_holds (fun _ _ => Settled.visible) (fun _ ht => ht.1) ?_
  intro s hs
  refine ⟨⟨rfl, ?_, hs.account.asked.pushFlush _, ?_, ?_, hs.account.reliable⟩, hs.sent, hs.empty,
    hs.encoded⟩
  · change s.accepted = _ ++ messages (s.ctx.outbox ++ [.flush s.ctx.flushes])
    rw [hs.account.order, messages_append, messages_flush, messages_nil, List.append_nil]
    rfl
  · exact hs.account.acks.mono (List.subset_append_left _ _) fun _ hn => hn
  · exact promise.frame hs.account.kept rfl rfl rfl

theorem drainCommands_sends (info : DatagramInfo)
    (outbox commands : List (DatagramOutboxCommand P.Write)) :
    Sends promise (Settled promise outbox commands) (drainCommands info commands)
      fun _ => Settled promise outbox [] := by
  induction commands with
  | nil => exact Triple.pure fun s hs => hs
  | cons command commands ih =>
    cases command with
    | write msg =>
      refine Triple.bind (processing_sends info msg.1 msg.2 outbox commands) fun _ => ?_
      refine Triple.bind (encodeDatagramOutbound_sends info msg.1 msg.2 outbox commands) fun _ => ?_
      exact Triple.bind (flushDatagram_sends msg.1 outbox commands) fun _ => ih
    | flush done =>
      apply Triple.bind (Q := fun _ => Settled promise outbox commands)
      · exact sends_modify (fun _ => Settled.visible) fun s hs => hs.send
      · exact fun _ => ih

theorem drainDatagramOutbox_sends (info : DatagramInfo) :
    Sends (P := P) promise (Staged promise) (drainDatagramOutbox info)
      fun _ => Settled promise [] [] := by
  apply Triple.bind (Q := fun commands => Settled promise [] commands)
  · refine await_triple_of_holds (fun _ _ => Settled.visible) (fun _ ht => ht.1) ?_
    intro s hs
    exact hs.frame { s.ctx with outbox := [] } rfl rfl _ _
  · exact drainCommands_sends info []

theorem Settled.staged (h : s.Settled promise [] []) : s.Staged promise := by
  rw [Staged, h.account.outbox]
  exact h

/-! ## One datagram received -/

/-- The pipeline and what it was handed are not part of the account. -/
theorem Settled.update (h : s.Settled promise outbox commands) (pipeline : DatagramPipeline P)
    (delivered : List (SocketAddr × P.Item)) :
    Settled promise outbox commands { s with pipeline, delivered } := by
  have hframe := h.frame s.ctx rfl rfl pipeline delivered
  rwa [h.account.outbox] at hframe

theorem runHandler_sends (info : DatagramInfo) (msg : P.CurrentIn) :
    Sends promise (Settled promise [] []) (runHandler info msg)
      fun _ => Settled promise [] [] := by
  apply runHandler_triple (S := Staged promise)
  · exact fun s hs => hs.visible
  · exact fun _ s hs => hs.halted
  · exact fun s hs => hs.staged
  · intro future
    apply (handlerRuntime info).pollHandler_triple
    · exact fun s hs => hs.visible
    · exact fun msg s hs => hs.pushWrite msg
    · exact pushFlush_sends
    · exact fun s hs => hs.frame s.ctx.close rfl rfl _ _
    · exact (drainDatagramOutbox_sends info).mono (fun s hs => hs) (fun _ s hs => hs.staged)
        fun _ s hs => hs
    · exact fun s hs => hs.halted
    · exact fun s hs => hs.halted
  · exact fun _ s hs => hs.frame s.ctx rfl rfl _ _
  · exact drainDatagramOutbox_sends info

theorem processInboundFlushable_sends (info : DatagramInfo) (msg : P.Item) :
    Sends promise (Settled promise [] []) (processInboundFlushable info msg)
      fun _ => Settled promise [] [] := by
  refine processInboundFlushable_triple (fun _ => Settled.visible) (fun _ _ => Settled.halted)
    ?_ ?_ ?_ (runHandler_sends info)
  · exact fun s hs => hs.update _ _
  · exact fun t s hs => hs.update _ _
  · exact fun t s hs => hs.update _ _

/-- A message of the command queue. -/
theorem Settled.accept (h : s.Settled promise [] []) (msg : SocketAddr × P.Write) :
    (s.accept msg).Settled promise [] [.write msg] := by
  refine ⟨⟨h.account.outbox, ?_, trivial, h.account.acks, ?_, h.account.reliable⟩, h.sent, h.empty,
    h.encoded⟩
  · change s.accepted ++ [msg] = _ ++ messages [.write msg]
    rw [h.account.order, messages_nil, List.append_nil]
    rfl
  · exact promise.stable h.account.kept (List.prefix_append _ _) List.prefix_rfl List.prefix_rfl

end DatagramState

/-! ## The socket task -/

namespace DatagramSocketRuntime
open DatagramState

/-- The acknowledgements sent to the senders of commands, which are answered in the order of the
commands, promise this number of messages. -/
def Promised (acks : Acks) (asked : List (Sender × Nat)) (n : Nat) : Prop :=
  ∃ done done', ((done, .ok ()), (done', n)) ∈ acks.zip asked

/-- The senders that `acks` answers are the first of those that asked. -/
def InOrder (acks : Acks) (asked : List (Sender × Nat)) : Prop :=
  acks.map (·.1) <+: asked.map (·.1)

variable {acks : Acks} {asked : List (Sender × Nat)} {least n : Nat} {done : Sender}
  {ack : Except Error Unit}

theorem length_eq_of_answered (h : acks.map (·.1) = asked.map (·.1)) :
    acks.length = asked.length := by
  simpa using congrArg List.length h

/-- A sender that has only asked is promised nothing. -/
theorem promised_ask (h : acks.map (·.1) = asked.map (·.1)) (ask : Sender × Nat) :
    Promised acks (asked ++ [ask]) n ↔ Promised acks asked n := by
  have hzip : (acks ++ []).zip (asked ++ [ask]) = acks.zip asked ++ [].zip [ask] :=
    List.zip_append (length_eq_of_answered h)
  rw [List.append_nil, List.zip_nil_left, List.append_nil] at hzip
  rw [Promised, hzip]
  rfl

theorem promised_answer (h : acks.map (·.1) = asked.map (·.1)) (m : Nat) :
    Promised (acks ++ [(done, ack)]) (asked ++ [(done, m)]) n ↔
      Promised acks asked n ∨ ack = .ok () ∧ n = m := by
  have hzip : (acks ++ [(done, ack)]).zip (asked ++ [(done, m)]) =
      acks.zip asked ++ [(done, ack)].zip [(done, m)] :=
    List.zip_append (length_eq_of_answered h)
  rw [Promised, hzip]
  constructor
  · rintro ⟨d, d', hmem⟩
    rcases List.mem_append.1 hmem with hmem | hmem
    · exact .inl ⟨d, d', hmem⟩
    · cases List.mem_singleton.1 hmem
      exact .inr ⟨rfl, rfl⟩
  · rintro (⟨d, d', hmem⟩ | ⟨rfl, rfl⟩)
    · exact ⟨d, d', List.mem_append_left _ hmem⟩
    · exact ⟨done, done, List.mem_append_right _ List.mem_cons_self⟩

/-- The promises made so far, and that `least` messages have been accepted. -/
def promise (acks : Acks) (asked : List (Sender × Nat)) (least : Nat) : Promise P where
  holds s := least ≤ s.accepted.length ∧ ∀ n, Promised acks asked n → s.Covers n
  stable h haccepted hprocessed hsent :=
    ⟨h.1.trans haccepted.length_le, fun n hn => (h.2 n hn).mono hprocessed hsent⟩

/-- The task with what its pipeline works on in a state that `Q` allows. -/
structure At (acks : Acks) (asked : List (Sender × Nat)) (Q : DatagramState P → Prop)
    (rt : DatagramSocketRuntime P) : Prop where
  acks : rt.acks = acks
  asked : rt.asked = asked
  io : Q rt.io

/-- What an observer of the task may rely on. -/
structure Visible (rt : DatagramSocketRuntime P) : Prop where
  io : rt.io.Visible (promise rt.acks rt.asked 0)
  inOrder : InOrder rt.acks rt.asked

/-- The task is back at its `select!`. -/
structure Idle (rt : DatagramSocketRuntime P) : Prop where
  io : rt.io.Settled (promise rt.acks rt.asked 0) [] []
  answered : rt.acks.map (·.1) = rt.asked.map (·.1)

/-- The task has ended early. -/
structure Halted (rt : DatagramSocketRuntime P) : Prop where
  visible : rt.Visible
  sent : rt.io.socket.sent = sentDatagrams rt.io.processed

variable {rt : DatagramSocketRuntime P} {s : DatagramState P}

/-- The account with other promises. -/
theorem settled_congr {promise : Promise P} (promise' : Promise P)
    {outbox commands : List (DatagramOutboxCommand P.Write)} (h : s.Settled promise outbox commands)
    (hkept : promise'.holds s) : s.Settled promise' outbox commands :=
  ⟨⟨h.account.outbox, h.account.order, h.account.asked, h.account.acks, hkept, h.account.reliable⟩,
    h.sent, h.empty, h.encoded⟩

theorem At.visible (horder : InOrder acks asked)
    (h : rt.At acks asked (DatagramState.Visible (promise acks asked least))) : rt.Visible := by
  obtain ⟨rfl, rfl, hio⟩ := h
  exact ⟨⟨hio.sent, hio.order, hio.acks, Nat.zero_le _, hio.kept.2⟩, horder⟩

theorem At.halted (horder : InOrder acks asked)
    (h : rt.At acks asked (DatagramState.Halted (promise acks asked least))) : rt.Halted :=
  ⟨At.visible horder ⟨h.acks, h.asked, h.io.1⟩, h.io.2⟩

/-- Once nothing waits, all that was accepted is sent. -/
theorem settled_covers {promise : Promise P} (h : s.Settled promise [] [])
    (hn : n ≤ s.accepted.length) : s.Covers n := by
  refine ⟨s.processed, List.prefix_rfl, ?_, h.encoded, h.sent ▸ List.prefix_rfl⟩
  rwa [h.account.order, messages_nil, List.append_nil, List.length_map] at hn

theorem At.idle (hanswered : acks.map (·.1) = asked.map (·.1))
    (h : rt.At acks asked (Settled (promise acks asked least) [] [])) : rt.Idle := by
  obtain ⟨rfl, rfl, hio⟩ := h
  exact ⟨settled_congr _ hio ⟨Nat.zero_le _, hio.account.kept.2⟩, hanswered⟩

theorem Idle.visible (h : rt.Idle) : rt.Visible :=
  ⟨h.io.visible, ⟨[], by rw [List.append_nil, h.answered]⟩⟩

theorem Idle.halted (h : rt.Idle) : rt.Halted := ⟨h.visible, h.io.sent⟩

/-- Around the pipeline nothing changes. -/
theorem onIo_sends {α : Type} {x : Traced (Exit Error) (DatagramState P) α}
    {P₀ : DatagramState P → Prop} {Q : α → DatagramState P → Prop} (horder : InOrder acks asked)
    (h : Sends (promise acks asked least) P₀ x Q) :
    Triple Visible (At acks asked P₀) (onIo x) (fun a => At acks asked (Q a))
      fun _ => At acks asked (DatagramState.Halted (promise acks asked least)) := by
  apply Triple.zoom
  intro rt hrt
  have hvisible (t : DatagramState P) (ht : t.Visible (promise acks asked least)) :
      (ioPart.set t rt).Visible :=
    At.visible horder ⟨hrt.acks, hrt.asked, ht⟩
  have hstates := h.watch hvisible
  refine hstates.mono ?_ ?_ ?_
  · exact fun t ht => ht ▸ hrt.io
  · exact fun a t ht => ⟨hrt.acks, hrt.asked, ht⟩
  · exact fun _ t ht => ⟨hrt.acks, hrt.asked, ht⟩

/-- One message of the command queue. -/
theorem writeMessage_sends (horder : InOrder acks asked) (least : Nat) (peer : SocketAddr)
    (msg : P.Write) :
    Triple Visible (At acks asked fun s => s.Settled (promise acks asked 0) [] [] ∧
        s.accepted.length + 1 = least)
      (writeMessage peer msg) (fun _ => At acks asked (Settled (promise acks asked least) [] []))
      fun _ => At acks asked (DatagramState.Halted (promise acks asked least)) := by
  apply Triple.bind (Q := fun _ =>
    At acks asked (Settled (promise acks asked least) [] [.write (peer, msg)]))
  · apply Triple.step
    rintro rt ⟨hacks, hasked, hio, hleast⟩
    have hsettled := hio.accept (peer, msg)
    have hlength : (rt.io.accept (peer, msg)).accepted.length = least := by
      rw [DatagramState.accept, List.length_append, List.length_singleton, hleast]
    have hsettled' := settled_congr (promise acks asked least) hsettled
      ⟨hlength.ge, hsettled.account.kept.2⟩
    have hat : At acks asked _ { rt with io := rt.io.accept (peer, msg) } :=
      ⟨hacks, hasked, hsettled'⟩
    exact ⟨At.visible horder ⟨hacks, hasked, hsettled'.visible⟩, hat⟩
  · intro _
    refine Triple.look_keep fun rt _ => ?_
    refine Triple.bind (onIo_sends horder (processing_sends (rt.info peer) peer msg [] [])) fun _ => ?_
    refine Triple.bind (onIo_sends horder
      (encodeDatagramOutbound_sends (rt.info peer) peer msg [] [])) fun _ => ?_
    exact onIo_sends horder (flushDatagram_sends peer [] [])

/-- What a turn of the loop, or a run, does. -/
abbrev Serves {α : Type} (x : SocketTask P α) : Prop :=
  Triple Visible Idle x (fun _ => Idle) fun _ => Halted

/-- A part of a turn that is the pipeline's. -/
theorem onIo_serves {α : Type} {x : Traced (Exit Error) (DatagramState P) α}
    (h : ∀ promise : Promise P, Sends promise (Settled promise [] []) x
      fun _ => Settled promise [] []) : Serves (onIo x) := by
  intro rt hrt
  refine ((onIo_sends hrt.visible.inOrder (h _)).mono (fun t ht => ht) ?_ ?_) rt ⟨rfl, rfl, hrt.io⟩
  · exact fun _ t ht => ht.idle hrt.answered
  · exact fun _ t ht => ht.halted hrt.visible.inOrder

/-- Each datagram has a context of its own. -/
theorem processDatagram_serves (read : Bytes) (peer : SocketAddr) :
    Serves (P := P) (processDatagram read peer) := by
  apply Triple.bind (Q := fun _ => Idle)
  · exact onIo_serves fun _ =>
      await_zoom_triple (fun _ => Settled.visible) (fun _ _ => Settled.halted)
        fun t s hs => hs.update _ _
  · intro msg
    apply Triple.bind (Q := fun _ => Idle)
    · refine Triple.step fun rt hrt => ?_
      have hidle : Idle { rt with io := { rt.io with ctx := {} } } := by
        refine ⟨⟨⟨rfl, hrt.io.account.order, trivial, .nil, ?_, hrt.io.account.reliable⟩,
          hrt.io.sent, hrt.io.empty, hrt.io.encoded⟩, hrt.answered⟩
        exact hrt.io.account.kept
      exact ⟨hidle.visible, hidle⟩
    · intro _
      refine Triple.look_keep fun rt _ => ?_
      apply Triple.bind (Q := fun _ => Idle)
      · exact onIo_serves fun _ => processInboundFlushable_sends _ msg
      · exact fun _ => Triple.look_keep fun _ _ => Triple.pure fun _ hrt => hrt

theorem handleDatagram_serves (datagram : Bytes) (peer : SocketAddr) :
    Serves (P := P) (handleDatagram datagram peer) := by
  refine Triple.look_keep fun rt _ => ?_
  dsimp only
  split
  · exact Triple.fail fun _ hrt => hrt.halted
  · exact processDatagram_serves _ peer

/-- The acknowledgement of a command promises what the others do, and its own number of messages. -/
theorem holds_answer {s : DatagramState P} (hanswered : acks.map (·.1) = asked.map (·.1))
    (hkept : (promise acks (asked ++ [(done, n)]) least).holds s) (hack : ack = .ok () → s.Covers n) :
    (promise (acks ++ [(done, ack)]) (asked ++ [(done, n)]) 0).holds s := by
  refine ⟨Nat.zero_le _, fun m hm => ?_⟩
  rcases (promised_answer hanswered n).1 hm with hm | ⟨hok, rfl⟩
  · exact hkept.2 m ((promised_ask hanswered _).2 hm)
  · exact hack hok

theorem inOrder_ask (hanswered : acks.map (·.1) = asked.map (·.1)) (ask : Sender × Nat) :
    InOrder acks (asked ++ [ask]) := by
  rw [InOrder, List.map_append, hanswered]
  exact List.prefix_append _ _

theorem answered_answer (hanswered : acks.map (·.1) = asked.map (·.1)) (done : Sender)
    (ack : Except Error Unit) (n : Nat) :
    (acks ++ [(done, ack)]).map (·.1) = (asked ++ [(done, n)]).map (·.1) := by
  rw [List.map_append, List.map_append, hanswered]
  rfl

/-- A sender asks, and nothing of the account changes. -/
theorem ask_triple (hrt : rt.Idle) (done : Sender) :
    let n := rt.io.accepted.length + 1
    let asked := rt.asked ++ [(done, n)]
    Triple Visible (· = rt) (ask done)
      (fun _ => At rt.acks asked fun s =>
        s.Settled (promise rt.acks asked 0) [] [] ∧ s.accepted.length + 1 = n)
      fun _ => Halted := by
  intro n asked
  refine Triple.step fun t ht => ?_
  subst ht
  have hsettled := settled_congr (promise t.acks asked 0) hrt.io
    ⟨Nat.zero_le _, fun m hm => hrt.io.account.kept.2 m ((promised_ask hrt.answered _).1 hm)⟩
  have horder := inOrder_ask hrt.answered (done, t.io.accepted.length + 1)
  exact ⟨At.visible horder ⟨rfl, rfl, hsettled.visible⟩, rfl, rfl, hsettled, rfl⟩

/-- A write that is about to be acknowledged: if it succeeded then all that was accepted is sent. -/
def Written (acks : Acks) (asked : List (Sender × Nat)) (n : Nat) (result : Except Error Unit) :
    DatagramSocketRuntime P → Prop :=
  At acks asked fun s => s.Halted (promise acks asked n) ∧
    (result = .ok () → s.Settled (promise acks asked n) [] [])

/-- A write that failed is left for its acknowledgement. -/
theorem attempt_writeMessage_triple (horder : InOrder acks asked) (n : Nat) (peer : SocketAddr)
    (msg : P.Write) :
    Triple Visible (At acks asked fun s => s.Settled (promise acks asked 0) [] [] ∧
        s.accepted.length + 1 = n)
      (attempt Exit.caught (writeMessage peer msg) : SocketTask P (Except Error Unit))
      (Written acks asked n) fun _ => Halted := by
  apply Triple.attempt
  refine (writeMessage_sends horder n peer msg).mono (fun t ht => ht) ?_ ?_
  · exact fun _ t ht => ⟨ht.acks, ht.asked, ht.io.halted, fun _ => ht.io⟩
  · intro e t ht
    refine ⟨fun d _ => ⟨ht.acks, ht.asked, ht.io, fun hd => ?_⟩, fun _ _ => ht.halted horder⟩
    cases hd

/-- The acknowledgement of a write. -/
theorem acknowledge_triple (hanswered : acks.map (·.1) = asked.map (·.1)) (done : Sender) (n : Nat)
    {result ack : Except Error Unit} (hok : ack = .ok () → result = .ok ()) :
    Triple Visible (Written (P := P) acks (asked ++ [(done, n)]) n result)
      (step (modify fun rt => { rt with acks := rt.acks ++ [(done, ack)] }) : SocketTask P Unit)
      (fun _ t => t.Halted ∧ (result = .ok () → t.Idle)) fun _ => Halted := by
  refine Triple.step fun t ht => ?_
  have hholds := holds_answer hanswered ht.io.1.1.kept fun h =>
    settled_covers (ht.io.2 (hok h)) (ht.io.2 (hok h)).account.kept.1
  have hvisible := ht.io.1.1
  have hat : At (acks ++ [(done, ack)]) (asked ++ [(done, n)])
      (DatagramState.Halted (promise _ _ 0)) { t with acks := t.acks ++ [(done, ack)] } :=
    ⟨congrArg (· ++ [(done, ack)]) ht.acks, ht.asked,
      ⟨hvisible.sent, hvisible.order, hvisible.acks, hholds⟩, ht.io.1.2⟩
  have hanswered' := answered_answer hanswered done ack n
  have hhalted := hat.halted ⟨[], by rw [List.append_nil, hanswered']⟩
  refine ⟨hhalted.visible, hhalted, fun h => ?_⟩
  have hsettled := settled_congr _ (ht.io.2 h) hholds
  exact At.idle hanswered' ⟨hat.acks, hat.asked, hsettled⟩

theorem writeTo_triple (hrt : rt.Idle) (peer : SocketAddr) (msg : P.Write) :
    Triple Visible (· = rt) (handleCommand (some (.writeTo peer msg))) (fun _ => Idle)
      fun _ => Halted := by
  have horder := hrt.visible.inOrder
  have hwrite := writeMessage_sends (P := P) horder (rt.io.accepted.length + 1) peer msg
  apply Triple.bind (Q := fun _ => Idle)
  · refine hwrite.mono ?_ (fun _ t ht => ht.idle hrt.answered) fun _ t ht => ht.halted horder
    rintro t rfl
    exact ⟨rfl, rfl, hrt.io, rfl⟩
  · exact fun _ => Triple.pure fun t ht => ht

theorem writeToAndFlush_triple (hrt : rt.Idle) (peer : SocketAddr) (msg : P.Write)
    (done : Sender) :
    Triple Visible (· = rt) (handleCommand (some (.writeToAndFlush peer msg done)))
      (fun _ => Idle) fun _ => Halted := by
  refine Triple.bind (ask_triple hrt done) fun _ => ?_
  have horder := inOrder_ask hrt.answered (done, rt.io.accepted.length + 1)
  refine Triple.bind (attempt_writeMessage_triple horder _ peer msg) fun result => ?_
  -- A failed write is acknowledged before it ends the task.
  refine Triple.bind (acknowledge_triple hrt.answered done _ Except.mapError_eq_ok.1) fun _ => ?_
  apply Triple.bind (Q := fun _ => Idle)
  · exact propagate_triple (fun _ t hr ht => ht.2 hr) fun _ t _ ht => ht.1
  · exact fun _ => Triple.pure fun t ht => ht

theorem handleCommand_serves (cmd : Option (DatagramCommand P.Write)) :
    Serves (handleCommand cmd) := by
  cases cmd with
  | none => exact Triple.pure fun rt hrt => hrt
  | some cmd =>
    cases cmd with
    | close => exact Triple.pure fun rt hrt => hrt
    | writeTo peer msg => exact fun rt hrt => writeTo_triple hrt peer msg rt rfl
    | writeToAndFlush peer msg done =>
      exact fun rt hrt => writeToAndFlush_triple hrt peer msg done rt rfl

theorem select_serves (event : SocketEvent P.Write) : Serves (select event) := by
  cases event with
  | recv read =>
    cases read with
    | error err => exact Triple.fail fun rt hrt => hrt.halted
    | ok datagram => exact handleDatagram_serves datagram.1 datagram.2
  | command cmd => exact handleCommand_serves cmd
  | shutdown => exact Triple.pure fun rt hrt => hrt

/-- The first `n` messages accepted are processed, and the datagrams of those that no stage stopped
are sent. -/
def Delivered (n : Nat) (s : DatagramState P) : Prop :=
  ∃ ps, ps <+: s.processed ∧ n ≤ ps.length ∧ (∀ p ∈ ps, p.Accepted) ∧
    datagrams ps <+: s.socket.sent

/-- An `Ok` of `DatagramContext::flush` or of `write_to_and_flush` means that the messages it covers
are delivered. -/
structure AcksSound (rt : DatagramSocketRuntime P) : Prop where
  flushes : rt.io.ctx.acks.Sound rt.io.ctx.asked (Delivered · rt.io)
  commands : InOrder rt.acks rt.asked ∧ ∀ n, Promised rt.acks rt.asked n → Delivered n rt.io

/-- One datagram is sent for each message that no stage stopped, in the order in which the messages
were accepted: the encoding of the message, for its peer. A run that has not failed has processed
all of the messages. -/
structure DatagramPerMessage
    (r : EStateM.Result (Exit Error) (DatagramSocketRuntime P) Bool) : Prop where
  sent : r.final.io.socket.sent = datagrams r.final.io.processed
  order : r.final.io.processed.map (·.key) <+: r.final.io.accepted
  complete : ∀ stopped t, r = .ok stopped t → t.io.processed.map (·.key) = t.io.accepted
  acks : r.final.AcksSound

theorem Visible.acksSound (h : rt.Visible) (hnonempty : ∀ p ∈ rt.io.processed, ¬p.Empty) :
    rt.AcksSound := by
  have hdelivered (n : Nat) (hn : rt.io.Covers n) : Delivered n rt.io := by
    obtain ⟨ps, hps, hlength, hencoded, hsent⟩ := hn
    refine ⟨ps, hps, hlength, hencoded, ?_⟩
    rwa [sentDatagrams_eq_iff.2 fun p hp => hnonempty p (hps.subset hp)] at hsent
  refine ⟨h.io.acks.mono (List.Subset.refl _) hdelivered, h.inOrder, fun n hn => ?_⟩
  exact hdelivered n (h.io.kept.2 n hn)

theorem new_idle (id : UInt64) (localAddr : SocketAddr) (pipeline : DatagramPipeline P)
    (config : UdpSocketConfig) : (new id localAddr {} pipeline config).Idle := by
  refine ⟨⟨⟨rfl, rfl, trivial, .nil, ⟨Nat.zero_le _, ?_⟩, rfl⟩, rfl, rfl, ?_⟩, rfl⟩
  · rintro n ⟨done, done', h⟩
    exact (List.not_mem_nil h).elim
  · exact fun p hp => (List.not_mem_nil hp).elim

/-- The socket sends one datagram for each message exactly when no message has an empty encoding,
for which nothing is sent. As long as there is none, every `Ok` is sound at every point. -/
theorem run_datagramPerMessage_iff (id : UInt64) (localAddr : SocketAddr)
    (pipeline : DatagramPipeline P) (config : UdpSocketConfig)
    (events : List (SocketEvent P.Write)) :
    let rt := new id localAddr {} pipeline config
    let r := (run events).result rt
    (DatagramPerMessage r ↔ ∀ p ∈ r.final.io.processed, ¬p.Empty) ∧
      ∀ t ∈ rt :: (run events).visited rt, (∀ p ∈ t.io.processed, ¬p.Empty) → t.AcksSound := by
  intro rt r
  have hrt : rt.Idle := new_idle id localAddr pipeline config
  obtain ⟨hvisited, hresult⟩ := run_triple select_serves events rt hrt
  have hhalted : r.final.Halted := by
    cases hr : r with
    | ok stopped t =>
      rw [show (run events).result rt = .ok stopped t from hr] at hresult
      exact Idle.halted hresult
    | error e t =>
      rw [show (run events).result rt = .error e t from hr] at hresult
      exact hresult
  refine ⟨⟨fun h => ?_, fun h => ?_⟩, ?_⟩
  · rw [← sentDatagrams_eq_iff, ← hhalted.sent]
    exact h.sent
  · refine ⟨?_, hhalted.visible.io.order, ?_, hhalted.visible.acksSound h⟩
    · rw [hhalted.sent]
      exact sentDatagrams_eq_iff.2 h
    · intro stopped t hr
      rw [show (run events).result rt = .ok stopped t from hr] at hresult
      have horder := (Idle.io hresult).account.order
      rw [messages_nil, List.append_nil] at horder
      exact horder.symm
  · intro t ht hnonempty
    rcases List.mem_cons.1 ht with rfl | ht
    · exact hrt.visible.acksSound hnonempty
    · exact (hvisited t ht).acksSound hnonempty

/-- A datagram of no bytes is not sent, and its `write_to_and_flush` is acknowledged. -/
theorem not_datagramPerMessage_empty :
    let rt := new 1 ⟨[127, 0, 0, 1], 9000⟩ {} BytesDatagramCodec.echoPipeline {}
    let write := .command (some (.writeToAndFlush ⟨[127, 0, 0, 1], 9001⟩ [] 0))
    let r := (run [write]).result rt
    r.final.acks.map (fun ack => (ack.1, ack.2.toOption)) = [(0, some ())] ∧
      r.final.io.socket.sent = [] ∧
      datagrams r.final.io.processed = [(⟨[127, 0, 0, 1], 9001⟩, [])] ∧ ¬DatagramPerMessage r := by
  intro rt write r
  have hsent : r.final.io.socket.sent = [] := rfl
  have hdatagrams : datagrams r.final.io.processed = [(⟨[127, 0, 0, 1], 9001⟩, [])] := rfl
  refine ⟨rfl, hsent, hdatagrams, fun h => ?_⟩
  have := h.sent
  rw [hsent, hdatagrams] at this
  cases this

end DatagramSocketRuntime

end RsNetty

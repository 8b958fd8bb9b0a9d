import RsNetty.Codec.FixedLength
import RsNetty.Verify.Tcp.Rules

/-!
# Order and atomicity of TCP writes

`OutboundOrdered` is what an observer of the socket may rely on at every point of a run.
`OrderedOutput` is the invariant behind it: besides, it accounts for the messages that are accepted
and not yet processed, which wait in the outbox of the handler or in the commands taken out of it.
-/

namespace RsNetty
open EStateM Traced

variable {P : StreamStages}

/-- The encodings of the messages, one after the other. -/
def frames (processed : List (Processed P)) : Bytes := processed.flatMap Processed.frame

theorem frames_append (ps qs : List (Processed P)) : frames (ps ++ qs) = frames ps ++ frames qs :=
  List.flatMap_append

/-- The socket and `write_buf` hold the encodings of the messages processed so far, which are the
first of the messages staged or delivered, in this order. The socket got whole frames only. No
message but the last can have been refused by a stage or the encoder, and nothing of a refused one
is sent. -/
structure StreamState.OutboundOrdered (s : StreamState P) : Prop where
  bytes : s.stream.sent ++ s.writeBuf = frames s.history.processed
  order : s.history.processed.map (·.msg) <+: s.history.accepted
  whole : ∃ sent buffered, s.history.processed = sent ++ buffered ∧
    s.stream.sent = frames sent ∧ ∀ p ∈ sent, p.Accepted
  refused : ∀ p ∈ s.history.processed.dropLast, p.Accepted

/-- All of the accepted messages but those in `queue` are encoded, and the socket has not failed. -/
structure OrderedOutput (queue accepted : List P.Write) (processed : List (Processed P))
    (stream : TcpStream) (writeBuf : BytesMut) : Prop where
  bytes : stream.sent ++ writeBuf = frames processed
  order : accepted = processed.map (·.msg) ++ queue
  whole : ∃ sent buffered, processed = sent ++ buffered ∧ stream.sent = frames sent
  encoded : ∀ p ∈ processed, p.Accepted
  reliable : stream.faults = []

/-- A socket without faults takes all it is handed. -/
theorem TcpStream.writeAll_reliable {stream : TcpStream} (h : stream.faults = []) (src : Bytes) :
    writeAll src stream = .ok () { stream with sent := stream.sent ++ src } := by
  unfold writeAll
  split
  next => rfl
  next hfaults => cases hfaults.symm.trans h
  next hfaults => cases hfaults.symm.trans h

/-- Encoders only append. -/
def StreamStages.AppendsOnly (P : StreamStages) : Prop :=
  ∀ msg codec dst, dst <+: (P.encode msg (codec, dst)).final.2

theorem StreamStages.outboundFrame_extends (happend : P.AppendsOnly) (msg : P.Write)
    (outbound : P.OutP) (codec : P.C) (dst : BytesMut) :
    dst <+: (P.outboundFrame msg (outbound, codec, dst)).final.2.2 := by
  unfold outboundFrame
  cases ho : P.outbound msg outbound with
  | error e outbound' =>
    rw [bind_of_error (zoom_of_error ho)]
    exact List.prefix_rfl
  | ok flow outbound' =>
    rw [bind_of_ok (zoom_of_ok ho)]
    cases flow with
    | stop => exact List.prefix_rfl
    | next out =>
      have hlong := happend out codec dst
      change dst <+: ((EStateM.zoom Component.snd (P.encode out) >>= fun _ => pure true)
        (outbound', codec, dst)).final.2.2
      cases he : P.encode out (codec, dst) with
      | error e t =>
        rw [he] at hlong
        rw [bind_of_error (zoom_of_error he)]
        exact hlong
      | ok a t =>
        rw [he] at hlong
        rw [bind_of_ok (zoom_of_ok he)]
        exact hlong

/-- The buffer behind a processed message. -/
theorem Processed.final_buffer (happend : P.AppendsOnly) (p : Processed P) :
    p.run.final.2.2 = p.dst ++ p.frame := by
  obtain ⟨w, hw⟩ := P.outboundFrame_extends happend p.msg p.outbound p.codec p.dst
  rw [frame, run, ← hw, List.drop_left]

theorem FixedLengthFrameDecoder.echo_appendsOnly : echo.AppendsOnly := by
  intro msg self dst
  change dst <+: (EStateM.zoom Component.snd (self.encode msg) (self, dst)).final.2
  rw [final_zoom]
  exact self.encode_extends msg dst

namespace StreamState

def Ordered (queue : List P.Write) (s : StreamState P) : Prop :=
  OrderedOutput queue s.history.accepted s.history.processed s.stream s.writeBuf

/-- While a handler runs, the messages of its outbox are to be processed. -/
def Staged (s : StreamState P) : Prop := s.Ordered s.ctx.staged

/-- While commands taken from the outbox are carried out, the outbox stays empty. -/
def Draining (commands : List (StreamOutboxCommand P.Write)) (s : StreamState P) : Prop :=
  s.Ordered (commands.filterMap (·.msg?)) ∧ s.ctx.outbox = []

/-- Nothing waits to be encoded or sent. -/
def Flushed (s : StreamState P) : Prop := s.Draining [] ∧ s.writeBuf = []

variable {s : StreamState P} {queue : List P.Write}

theorem Ordered.outboundOrdered (h : s.Ordered queue) : s.OutboundOrdered where
  bytes := h.bytes
  order := ⟨queue, h.order.symm⟩
  whole := by
    obtain ⟨sent, buffered, hp, hsent⟩ := h.whole
    exact ⟨sent, buffered, hp, hsent, fun p hmem => h.encoded p (hp ▸ List.mem_append_left _ hmem)⟩
  refused p hp := h.encoded p (List.dropLast_subset _ hp)

theorem Draining.staged (h : s.Draining []) : s.Staged := by
  rw [Staged, Context.staged, h.2]
  exact h.1

/-- Accepting a message puts it at the end of the queue. -/
theorem Ordered.accept (h : s.Ordered queue) (msg : P.Write) :
    (s.accept msg).Ordered (queue ++ [msg]) :=
  { h with order := by rw [StreamState.accept, h.order, List.append_assoc] }

/-- A change of the context that leaves the staged messages alone. -/
theorem Staged.setCtx (h : s.Staged) {ctx : Context P.Write} (hctx : ctx.staged = s.ctx.staged) :
    (ctxPart.set ctx s).Staged := by
  unfold Staged
  rw [show (ctxPart.set ctx s).ctx = ctx from rfl, hctx]
  exact h

theorem Staged.pushWrite (h : s.Staged) (msg : P.Write) : (s.pushWrite msg).Staged := by
  unfold Staged
  rw [show (s.pushWrite msg).ctx = s.ctx.pushWrite msg from rfl, Context.staged_pushWrite]
  exact Ordered.accept h msg

/-! ## Encoding and flushing -/

theorem outboundFrame_ordered (happend : P.AppendsOnly) {msg : P.Write}
    (h : s.Ordered (msg :: queue)) :
    (outboundFrame msg s).Holds (fun _ t => t.Ordered queue ∧ t.ctx = s.ctx)
      (fun _ t => t.OutboundOrdered) := by
  let p : Processed P := ⟨s.pipeline.outbound, s.pipeline.codec, s.writeBuf, msg⟩
  have hbytes : s.stream.sent ++ p.run.final.2.2 = frames (s.history.processed ++ [p]) := by
    rw [p.final_buffer happend, ← List.append_assoc, h.bytes, frames_append]
    exact congrArg _ (List.append_nil _).symm
  have horder : s.history.accepted = (s.history.processed ++ [p]).map (·.msg) ++ queue := by
    rw [h.order, List.map_append, List.append_assoc]
    rfl
  obtain ⟨sent, buffered, hp, hsent⟩ := h.whole
  have hprocessed : s.history.processed ++ [p] = sent ++ (buffered ++ [p]) := by
    rw [← List.append_assoc, hp]
  change (EStateM.zoom outboundPart (P.outboundFrame msg) (s.processing msg)).Holds _ _
  unfold EStateM.zoom
  rw [show P.outboundFrame msg (outboundPart.get (s.processing msg)) = p.run from rfl]
  cases hrun : p.run with
  | ok encoded t =>
    rw [hrun] at hbytes
    refine ⟨?_, rfl⟩
    exact {
      bytes := hbytes
      order := horder
      whole := ⟨sent, buffered ++ [p], hprocessed, hsent⟩
      encoded := by
        intro q hq
        rcases List.mem_append.1 hq with hq | hq
        · exact h.encoded q hq
        · rw [List.mem_singleton.1 hq]
          exact ⟨encoded, t, hrun⟩
      reliable := h.reliable }
  | error e t =>
    rw [hrun] at hbytes
    exact {
      bytes := hbytes
      order := ⟨queue, horder.symm⟩
      whole := ⟨sent, buffered ++ [p], hprocessed, hsent,
        fun q hq => h.encoded q (hp ▸ List.mem_append_left _ hq)⟩
      refused := by
        intro q hq
        have hq : q ∈ (s.history.processed ++ [p]).dropLast := hq
        rw [List.dropLast_concat] at hq
        exact h.encoded q hq }

theorem processOutbound_ordered (happend : P.AppendsOnly) {msg : P.Write}
    (h : s.Ordered (msg :: queue)) :
    (processOutbound msg s).Holds (fun _ t => t.Ordered queue ∧ t.ctx = s.ctx)
      (fun _ t => t.OutboundOrdered) :=
  processOutbound_holds (outboundFrame_ordered happend h)

theorem encodeOutbound_ordered (happend : P.AppendsOnly) {msg : P.Write}
    (h : s.Ordered (msg :: queue)) :
    (encodeOutbound msg s).Holds (fun _ t => t.Ordered queue ∧ t.ctx = s.ctx)
      (fun _ t => t.OutboundOrdered) :=
  encodeOutbound_holds (fun _ ht => ht) (outboundFrame_ordered happend h)

/-- A flush hands all of `write_buf` to the socket, and does not fail unless the socket does. -/
theorem flushWriteBuf_ordered (h : s.Ordered queue) :
    ∃ t, flushWriteBuf s = .ok () t ∧ t.Ordered queue ∧ t.writeBuf = [] ∧ t.ctx = s.ctx := by
  rw [flushWriteBuf, get_bind]
  by_cases hempty : s.writeBuf = []
  · rw [if_neg (not_not.2 hempty)]
    exact ⟨s, rfl, h, hempty, rfl⟩
  · rw [if_pos hempty, bind_of_ok (zoom_of_ok (TcpStream.writeAll_reliable h.reliable _))]
    refine ⟨_, rfl, ?_, rfl, rfl⟩
    exact {
      bytes := by rw [List.append_nil]; exact h.bytes
      order := h.order
      whole := ⟨s.history.processed, [], (List.append_nil _).symm, h.bytes⟩
      encoded := h.encoded
      reliable := h.reliable }

/-! ## Draining the outbox -/

/-- A program on the connection that keeps `OutboundOrdered` throughout. -/
abbrev Keeps {α : Type} (P₀ : StreamState P → Prop) (x : Traced (Exit Error) (StreamState P) α)
    (Q : α → StreamState P → Prop) : Prop :=
  Triple OutboundOrdered P₀ x Q fun _ => OutboundOrdered

theorem Draining.outboundOrdered {commands : List (StreamOutboxCommand P.Write)}
    (h : s.Draining commands) : s.OutboundOrdered :=
  h.1.outboundOrdered

/-- What leaves the context alone leaves the outbox empty. -/
theorem Ordered.draining {t : StreamState P} {commands : List (StreamOutboxCommand P.Write)}
    (h : t.Ordered (commands.filterMap (·.msg?))) (hctx : t.ctx = s.ctx)
    (hs : s.ctx.outbox = []) : t.Draining commands :=
  ⟨h, (congrArg Context.outbox hctx).trans hs⟩

theorem flushWriteBuf_keeps : Keeps (P := P) (Draining []) (await flushWriteBuf) fun _ => Flushed := by
  apply await_triple_of_holds (fun _ s hs => hs.1.outboundOrdered) fun _ => id
  intro s hs
  obtain ⟨t, ht, hordered, hempty, hctx⟩ := flushWriteBuf_ordered hs.1
  rw [ht]
  exact ⟨hordered.draining hctx hs.2, hempty⟩

theorem drainCommands_keeps (happend : P.AppendsOnly)
    (commands : List (StreamOutboxCommand P.Write)) :
    Keeps (Draining commands) (drainCommands commands) fun _ => Draining [] := by
  refine drainCommands_triple (fun msg commands => ?_) (fun done commands s hs => ?_) commands
  · apply await_triple_of_holds (fun _ s hs => hs.outboundOrdered) fun _ => id
    intro s hs
    refine (encodeOutbound_ordered happend hs.1).mono ?_ fun _ t ht => ht
    exact fun _ t ht => ht.1.draining ht.2 hs.2
  · obtain ⟨t, ht, hordered, -, hctx⟩ := flushWriteBuf_ordered hs.1
    rw [ht]
    have hacked : (t.answer done (.ok ())).Draining commands := hordered.draining hctx hs.2
    exact ⟨hordered.outboundOrdered, hacked.outboundOrdered, hacked⟩

theorem takeCommands_keeps :
    Keeps Staged (await (EStateM.zoom (ctxPart (P := P)) Context.takeCommands)) Draining := by
  apply await_triple_of_holds (fun _ s hs => hs.outboundOrdered) fun _ => id
  exact fun s hs => ⟨hs, rfl⟩

theorem drainStreamOutbox_keeps (happend : P.AppendsOnly) :
    Keeps Staged (drainStreamOutbox (P := P) false) fun _ => Draining [] := by
  refine Triple.bind takeCommands_keeps fun commands => ?_
  exact Triple.bind (drainCommands_keeps happend commands) fun _ => Triple.pure fun s hs => hs

theorem drainStreamOutbox_flushes (happend : P.AppendsOnly) :
    Keeps Staged (drainStreamOutbox (P := P) true) fun _ => Flushed := by
  refine Triple.bind takeCommands_keeps fun commands => ?_
  exact Triple.bind (drainCommands_keeps happend commands) fun _ => flushWriteBuf_keeps

/-! ## One inbound message -/

theorem Flushed.outboundOrdered (h : s.Flushed) : s.OutboundOrdered := h.1.outboundOrdered

theorem runHandler_keeps (happend : P.AppendsOnly) (msg : P.CurrentIn) :
    Keeps Flushed (runHandler msg) fun _ => Flushed := by
  apply runHandler_triple (S := Staged)
  · exact fun s hs => Ordered.outboundOrdered hs
  · exact fun _ s hs => hs.outboundOrdered
  · exact fun s hs => hs.1.staged
  · intro future
    apply handlerRuntime.pollHandler_triple
    · exact fun s hs => Ordered.outboundOrdered hs
    · exact fun msg s hs => hs.pushWrite msg
    · apply await_triple_of_holds (fun _ s hs => Ordered.outboundOrdered hs) fun _ => id
      exact fun s hs => hs.setCtx (Context.staged_push_flush _ _)
    · exact fun s hs => hs.setCtx rfl
    · exact (drainStreamOutbox_keeps happend).mono (fun s hs => hs) (fun _ s hs => hs.staged)
        fun _ s hs => hs
    · exact fun s hs => Ordered.outboundOrdered hs
    · exact fun s hs => Ordered.outboundOrdered hs
  · exact fun _ s hs => hs
  · exact drainStreamOutbox_flushes happend

/-- The inbound and business stages do not write. -/
theorem processInboundFlushable_keeps (happend : P.AppendsOnly) (msg : P.Item) :
    Keeps Flushed (processInboundFlushable msg) fun _ => Flushed := by
  refine processInboundFlushable_triple (fun s hs => hs.outboundOrdered)
    (fun _ s hs => hs.outboundOrdered) ?_ ?_ ?_ (runHandler_keeps happend)
  · exact fun s hs => hs
  · exact fun _ s hs => hs
  · exact fun _ s hs => hs

end StreamState

/-! ## The connection task -/

namespace StreamConnectionRuntime
open StreamState

/-- A part of the task that keeps `OutboundOrdered` throughout. -/
abbrev TaskKeeps {α : Type} (P₀ : StreamConnectionRuntime P → Prop) (x : Task P α)
    (Q : α → StreamConnectionRuntime P → Prop) : Prop :=
  Triple (fun rt => rt.io.OutboundOrdered) P₀ x Q fun _ rt => rt.io.OutboundOrdered

theorem onIo_keeps {α : Type} {failure : Error → ConnectionFailure}
    {x : Traced (Exit Error) (StreamState P) α} {P₀ : StreamState P → Prop}
    {Q : α → StreamState P → Prop} (h : Keeps P₀ x Q) :
    TaskKeeps (fun rt => P₀ rt.io) (onIo failure x) fun a rt => Q a rt.io := by
  apply Triple.zoom
  intro rt hrt
  exact (Triple.mapError h).pre fun s hs => hs ▸ hrt

theorem modify_keeps {f : StreamConnectionRuntime P → StreamConnectionRuntime P}
    {P₀ Q : StreamState P → Prop} (hQ : ∀ s, Q s → s.OutboundOrdered)
    (h : ∀ rt, P₀ rt.io → Q (f rt).io) :
    TaskKeeps (fun rt => P₀ rt.io) (step (modify f)) fun _ rt => Q rt.io :=
  Triple.step fun rt hrt => ⟨hQ _ (h rt hrt), h rt hrt⟩

theorem unread_flushed :
    Unread (P := P) (fun rt => rt.io.OutboundOrdered) (fun rt => rt.io.Flushed)
      fun _ rt => rt.io.OutboundOrdered where
  watched _ hrt := hrt.outboundOrdered
  failed _ _ hrt := hrt.outboundOrdered
  decoded _ _ hrt := hrt
  read _ _ _ hrt := hrt

theorem writeMessage_keeps (happend : P.AppendsOnly) (msg : P.Write) :
    TaskKeeps (fun rt => rt.io.Flushed) (writeMessage msg) fun _ rt => rt.io.Flushed := by
  apply Triple.bind (Q := fun _ rt => rt.io.Draining [.write msg])
  · refine modify_keeps (fun s hs => hs.outboundOrdered) fun rt hrt => ?_
    exact ⟨hrt.1.1.accept msg, hrt.1.2⟩
  · intro _
    apply Triple.bind (Q := fun _ rt => rt.io.Draining [])
    · apply onIo_keeps
      apply await_triple_of_holds (fun _ s hs => hs.outboundOrdered) fun _ => id
      intro s hs
      refine (processOutbound_ordered happend hs.1).mono ?_ fun _ t ht => ht
      exact fun _ t ht => ht.1.draining ht.2 hs.2
    · intro _
      apply Triple.bind (Q := fun _ rt => rt.io.Draining [])
      · exact modify_keeps (fun s hs => hs.outboundOrdered) fun rt hrt => hrt
      · exact fun _ => onIo_keeps flushWriteBuf_keeps

theorem handleCommand_keeps (happend : P.AppendsOnly) (env : Surroundings)
    (cmd : Option (StreamCommand P.Write)) :
    TaskKeeps (fun rt => rt.io.Flushed) (handleCommand env cmd) fun _ rt => rt.io.Flushed := by
  cases cmd with
  | none => exact Triple.pure fun rt hrt => hrt
  | some cmd =>
    cases cmd with
    | close => exact Triple.pure fun rt hrt => hrt
    | write msg =>
      exact Triple.bind (writeMessage_keeps happend msg) fun _ => Triple.pure fun rt hrt => hrt
    | writeAndFlush msg done =>
      refine writeAndFlush_triple (Triple.step fun rt hrt => ?_) (writeMessage_keeps happend msg)
        ?_ ?_ ?_ ?_ env
      · exact ⟨Flushed.outboundOrdered hrt, hrt⟩
      · exact fun rt hrt => ⟨Flushed.outboundOrdered hrt, hrt⟩
      · exact fun _ _ rt hrt => ⟨hrt, hrt⟩
      · exact fun rt hrt => hrt
      · exact fun rt hrt => hrt

theorem select_keeps (happend : P.AppendsOnly) (env : Surroundings) (event : Event P.Write) :
    TaskKeeps (fun rt => rt.io.Flushed) (select env event) fun _ rt => rt.io.Flushed := by
  apply unread_flushed.select_triple
  · exact fun msg => onIo_keeps (processInboundFlushable_keeps happend msg)
  · exact fun cmd _ => handleCommand_keeps happend env cmd

theorem new_flushed (pipeline : StreamPipeline P) (config : TcpConnectionConfig)
    (tracked : Bool) : (new {} pipeline config tracked).io.Flushed := by
  refine ⟨⟨?_, rfl⟩, rfl⟩
  exact ⟨rfl, rfl, ⟨[], [], rfl, rfl⟩, fun p hp => (List.not_mem_nil hp).elim, rfl⟩

/-- The bytes on the socket are in order and whole at every point of every run whose socket does not
fail, and nothing is left to be sent when the task is back at its `select!`. -/
theorem run_outboundOrdered (happend : P.AppendsOnly) (env : Surroundings)
    (pipeline : StreamPipeline P) (config : TcpConnectionConfig) (tracked : Bool)
    (events : List (Event P.Write)) :
    let rt := new {} pipeline config tracked
    (∀ t ∈ rt :: (run env events).visited rt, t.io.OutboundOrdered) ∧
      ((run env events).result rt).final.io.OutboundOrdered ∧
      ∀ closed t, (run env events).result rt = .ok closed t →
        t.io.writeBuf = [] ∧ t.io.ctx.outbox = [] ∧
          t.io.history.processed.map (·.msg) = t.io.history.accepted := by
  intro rt
  have hrt : rt.io.Flushed := new_flushed pipeline config tracked
  obtain ⟨hvisited, hresult⟩ := run_triple env (select_keeps happend env) events rt hrt
  refine ⟨?_, ?_, ?_⟩
  · intro t ht
    rcases List.mem_cons.1 ht with rfl | ht
    · exact hrt.outboundOrdered
    · exact hvisited t ht
  · cases h : (run env events).result rt with
    | ok closed t =>
      rw [h] at hresult
      exact Flushed.outboundOrdered hresult
    | error e t =>
      rw [h] at hresult
      exact hresult
  · intro closed t h
    rw [h] at hresult
    have horder := hresult.1.1.order
    rw [List.filterMap_nil, List.append_nil] at horder
    exact ⟨hresult.2, hresult.1.2, horder.symm⟩

/-- A command between the two reads that bring a frame. -/
theorem run_outboundOrdered_echo :
    let rt := new {} (FixedLengthFrameDecoder.echoPipeline ⟨2, by decide⟩) {} true
    let events := [.read (.ok [1, 2, 3]), .command (some (.write [9, 9])), .read (.ok [4])]
    let echo := run (P := FixedLengthFrameDecoder.echo) ⟨fun _ => "", 0⟩ events
    ((∀ t ∈ rt :: echo.visited rt, t.io.OutboundOrdered) ∧
      (echo.result rt).final.io.OutboundOrdered ∧
      ∀ closed t, echo.result rt = .ok closed t →
        t.io.writeBuf = [] ∧ t.io.ctx.outbox = [] ∧
          t.io.history.processed.map (·.msg) = t.io.history.accepted) ∧
    (echo.result rt).final.io.stream.sent = [1, 2, 9, 9, 3, 4] :=
  ⟨run_outboundOrdered FixedLengthFrameDecoder.echo_appendsOnly _ _ _ _ _, by decide +kernel⟩

/-- A handler that flushes in between and fails in the end; everything it staged is sent. -/
example :
    let P : StreamStages := { FixedLengthFrameDecoder.echo with
      read := fun handler msg => .write msg <| .writeAndFlush msg fun _ =>
        .suspend <| .write msg <| .ready (.error .closed) handler }
    let rt : StreamConnectionRuntime P := new {} ⟨⟨1, by decide⟩, (), (), (), ()⟩ {} false
    ((run ⟨fun _ => "", 0⟩ [.read (.ok [7])]).result rt).final.io.stream.sent = [7, 7, 7] := by
  decide +kernel

end StreamConnectionRuntime

end RsNetty

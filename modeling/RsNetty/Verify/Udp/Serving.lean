import RsNetty.Channel.Datagram
import RsNetty.Theory.Transducer
import RsNetty.Verify.Acknowledgement
import RsNetty.Verify.Udp.Rules

/-!
# What a UDP socket does

The socket task polls its handler, collects what the handler writes in an outbox, drains the outbox
when a flush is awaited and when the handler is done, and acknowledges. All of this comes to a
transducer (`serve`) that runs the handler from its beginning to its end, sends each message where
the handler writes it, and knows of no outbox: a task sends what the transducer gives for the events
it has found, and hands to its stages what the transducer hands to them.
-/

namespace RsNetty
open EStateM Traced

/-! ## The course of a handler -/

/-- What a handler does: its messages, whether it asks for the task to close, and how it returns, if
it does. -/
structure HandlerFuture.Course (H M : Type) where
  writes : List M := []
  closes : Bool := false
  ends : Option (Except Error Unit × H) := none

/-- The course of a handler that has asked for this number of flushes. A flush that was asked for is
answered with `Ok`. -/
def HandlerFuture.course {H M : Type} : HandlerFuture H M → Sender → Course H M
  | .ready result handler, _ => { ends := some (result, handler) }
  | .panic, _ => {}
  | .write msg rest, flushes =>
    let course := rest.course flushes
    { course with writes := msg :: course.writes }
  | .pushFlush rest, flushes => (rest flushes).course (flushes + 1)
  | .awaitFlush done rest, flushes =>
    if done < flushes then (rest (.ok ())).course flushes else {}
  | .suspend rest, flushes => rest.course flushes
  | .close rest, flushes => { rest.course flushes with closes := true }

/-! ## The transducer -/

/-- What is seen of a task: an item handed to the stages, with the peer it is from, and a datagram
sent. -/
inductive SocketOutput (Item : Type) where
  | handed (peer : SocketAddr) (item : Item)
  | sent (peer : SocketAddr) (datagram : Bytes)

namespace SocketOutput
variable {Item : Type}

def handed? : SocketOutput Item → Option (SocketAddr × Item)
  | .handed peer item => some (peer, item)
  | .sent _ _ => none

def sent? : SocketOutput Item → Option (SocketAddr × Bytes)
  | .handed _ _ => none
  | .sent peer datagram => some (peer, datagram)

end SocketOutput

namespace DatagramStages

/-- A message for a peer, with what the outbound stages are told. -/
abbrev Outgoing (P : DatagramStages) := DatagramInfo × SocketAddr × P.Write

/-- The outbound stages and the encoder. Nothing is sent for a message without an encoding. -/
def emit (P : DatagramStages) : Transducer (P.OutP × P.C) P.Outgoing (SocketOutput P.Item) :=
  fun (outbound, codec) (info, peer, msg) =>
    match P.outboundDatagram info msg (outbound, codec, []) with
    | .error _ _ => ([], none)
    | .ok () (outbound, codec, dst) =>
      (if dst = [] then [] else [.sent peer dst], some (outbound, codec))

/-- The handler on a message. The last component tells whether the task is to close. -/
def handle (P : DatagramStages) (info : DatagramInfo) (pipeline : DatagramPipeline P)
    (msg : P.CurrentIn) : List (SocketOutput P.Item) × Option (DatagramPipeline P × Bool) :=
  let course := (P.read info pipeline.handler msg).course 0
  match P.emit.run (pipeline.outbound, pipeline.codec) (course.writes.map (info, ·)) with
  | (outs, none) => (outs, none)
  | (outs, some (outbound, codec)) =>
    match course.ends with
    | some (.ok (), handler) =>
      (outs, some ({ pipeline with codec, handler, outbound }, course.closes))
    | some (.error _, _) => (outs, none)
    | none => (outs, none)

/-- The inbound and the business stages on an item, and the handler. -/
def process (P : DatagramStages) (info : DatagramInfo) (pipeline : DatagramPipeline P)
    (item : P.Item) : List (SocketOutput P.Item) × Option (DatagramPipeline P × Bool) :=
  match P.inbound info item pipeline.inbound with
  | .error _ _ => ([], none)
  | .ok .stop inbound => ([], some ({ pipeline with inbound }, false))
  | .ok (.next msg) inbound =>
    match P.business info msg pipeline.business with
    | .error _ _ => ([], none)
    | .ok .stop business => ([], some ({ pipeline with inbound, business }, false))
    | .ok (.next msg) business => P.handle info { pipeline with inbound, business } msg

/-- What a socket is known by. -/
structure Site where
  id : UInt64
  localAddr : SocketAddr
  config : UdpSocketConfig

def Site.info (site : Site) (peerAddr : SocketAddr) : DatagramInfo :=
  ⟨site.id, peerAddr, site.localAddr⟩

/-- A datagram received. -/
def receive (P : DatagramStages) (site : Site) (pipeline : DatagramPipeline P) (datagram : Bytes)
    (peer : SocketAddr) : List (SocketOutput P.Item) × Option (DatagramPipeline P × Bool) :=
  let read := datagram.take site.config.bufferSize
  if site.config.maxDatagramSize < read.length then ([], none)
  else
    match P.decodeDatagram read pipeline.codec with
    | .error _ _ => ([], none)
    | .ok item codec =>
      let (outs, next) := P.process (site.info peer) { pipeline with codec } item
      (.handed peer item :: outs, next)

/-- A message of the command queue. -/
def write (P : DatagramStages) (site : Site) (pipeline : DatagramPipeline P) (peer : SocketAddr)
    (msg : P.Write) : List (SocketOutput P.Item) × Option (DatagramPipeline P) :=
  let (outs, next) := P.emit (pipeline.outbound, pipeline.codec) (site.info peer, peer, msg)
  (outs, next.map fun (outbound, codec) => { pipeline with outbound, codec })

/-- The socket: what it does about an event, and the pipeline it goes on with unless it stops. -/
def serve (P : DatagramStages) (site : Site) :
    Transducer (DatagramPipeline P) (SocketEvent P.Write) (SocketOutput P.Item) :=
  fun pipeline event =>
    match event with
    | .recv (.ok (datagram, peer)) =>
      let (outs, next) := P.receive site pipeline datagram peer
      (outs, next.bind fun (pipeline, closes) => if closes then none else some pipeline)
    | .command (some (.writeTo peer msg)) => P.write site pipeline peer msg
    | .command (some (.writeToAndFlush peer msg _)) => P.write site pipeline peer msg
    | .recv (.error _) | .command (some .close) | .command none | .shutdown => ([], none)

end DatagramStages

variable {P : DatagramStages}

/-- The datagrams among the outputs. -/
def sentOf (outs : List (SocketOutput P.Item)) : List (SocketAddr × Bytes) :=
  outs.filterMap (·.sent?)

/-- The items among the outputs, with their peers. -/
def handedOf (outs : List (SocketOutput P.Item)) : List (SocketAddr × P.Item) :=
  outs.filterMap (·.handed?)

namespace DatagramState

/-! ## One message -/

/-- The outputs so far, the pipeline, and what is in `write_buf`. -/
structure At (outs : List (SocketOutput P.Item)) (pipeline : DatagramPipeline P) (buf : BytesMut)
    (s : DatagramState P) : Prop where
  sent : s.socket.sent = sentOf outs
  handed : s.delivered = handedOf outs
  pipeline : s.pipeline = pipeline
  buf : s.writeBuf = buf

/-- Some of these outputs have been made in addition. -/
def Within (outs more : List (SocketOutput P.Item)) (s : DatagramState P) : Prop :=
  ∃ part, part <+: more ∧ s.socket.sent = sentOf (outs ++ part) ∧
    s.delivered = handedOf (outs ++ part)

variable {outs more more' : List (SocketOutput P.Item)} {pipeline : DatagramPipeline P}
  {buf : BytesMut} {s t : DatagramState P} {info : DatagramInfo} {peer : SocketAddr} {msg : P.Write}

theorem Within.mono (h : s.Within outs more) (hmore : more <+: more') : s.Within outs more' := by
  obtain ⟨part, hpart, hs⟩ := h
  exact ⟨part, hpart.trans hmore, hs⟩

/-- Outputs that come after others. -/
theorem Within.behind (h : s.Within (outs ++ more) more') : s.Within outs (more ++ more') := by
  obtain ⟨part, hpart, hsent, hhanded⟩ := h
  rw [List.append_assoc] at hsent hhanded
  exact ⟨more ++ part, (List.prefix_append_right_inj _).2 hpart, hsent, hhanded⟩

theorem At.within (h : s.At outs pipeline buf) : s.Within outs more :=
  ⟨[], List.nil_prefix, by rw [h.sent, List.append_nil], by rw [h.handed, List.append_nil]⟩

/-- The message is in the buffer, where the transducer has sent it. -/
def Encoded (outs : List (SocketOutput P.Item)) (pipeline : DatagramPipeline P)
    (info : DatagramInfo) (peer : SocketAddr) (msg : P.Write) (s : DatagramState P) : Prop :=
  ∃ outbound codec dst,
    P.emit (pipeline.outbound, pipeline.codec) (info, peer, msg) =
      (if dst = [] then [] else [.sent peer dst], some (outbound, codec)) ∧
    s.At outs { pipeline with outbound, codec } dst

/-- The outbound stages and the encoder on an empty buffer. -/
theorem outbound_emits {C : DatagramContext P.Write → Prop} (h : s.At outs pipeline [])
    (hctx : C s.ctx) : (EStateM.zoom outboundPart (P.outboundDatagram info msg) s).Holds
      (fun _ t => t.Encoded outs pipeline info peer msg ∧ C t.ctx) fun _ => Within outs [] := by
  obtain ⟨hsent, hhanded, rfl, hbuf⟩ := h
  have hget : outboundPart.get s = (s.pipeline.outbound, s.pipeline.codec, []) := by
    rw [← hbuf]
    rfl
  cases hx : P.outboundDatagram info msg (outboundPart.get s) with
  | ok _ t =>
    obtain ⟨outbound, codec, dst⟩ := t
    rw [zoom_of_ok hx]
    rw [hget] at hx
    refine ⟨⟨outbound, codec, dst, ?_, hsent, hhanded, rfl, rfl⟩, hctx⟩
    simp only [DatagramStages.emit, hx]
  | error e t =>
    rw [zoom_of_error hx]
    exact ⟨[], List.nil_prefix, by rw [List.append_nil]; exact hsent,
      by rw [List.append_nil]; exact hhanded⟩

/-- The message has been sent. -/
def Emitted (outs : List (SocketOutput P.Item)) (pipeline : DatagramPipeline P)
    (info : DatagramInfo) (peer : SocketAddr) (msg : P.Write) (s : DatagramState P) : Prop :=
  ∃ more outbound codec,
    P.emit (pipeline.outbound, pipeline.codec) (info, peer, msg) = (more, some (outbound, codec)) ∧
    s.At (outs ++ more) { pipeline with outbound, codec } []

theorem flushDatagram_emits {C : DatagramContext P.Write → Prop}
    (h : s.Encoded outs pipeline info peer msg) (hctx : C s.ctx) :
    (flushDatagram peer s).Holds (fun _ t => t.Emitted outs pipeline info peer msg ∧ C t.ctx)
      fun _ => Within outs [] := by
  obtain ⟨outbound, codec, dst, hemit, hsent, hhanded, hpipeline, rfl⟩ := h
  rw [flushDatagram, get_bind]
  by_cases hbuf : s.writeBuf = []
  · rw [if_neg (not_not.2 hbuf)]
    rw [if_pos hbuf] at hemit
    exact ⟨⟨[], outbound, codec, hemit, by rw [List.append_nil]; exact hsent,
      by rw [List.append_nil]; exact hhanded, hpipeline, hbuf⟩, hctx⟩
  · rw [if_pos hbuf]
    rw [if_neg hbuf] at hemit
    have hsends : (UdpSocket.sendTo s.writeBuf peer s.socket).Holds
        (fun _ socket => socket.sent = s.socket.sent ++ [(peer, s.writeBuf)])
        fun _ socket => socket.sent = s.socket.sent := by
      unfold UdpSocket.sendTo
      split <;> exact rfl
    cases hx : UdpSocket.sendTo s.writeBuf peer s.socket with
    | ok _ socket =>
      rw [hx] at hsends
      rw [bind_of_ok (zoom_of_ok (c := socketPart) hx)]
      refine ⟨⟨_, outbound, codec, hemit, ?_, ?_, hpipeline, rfl⟩, hctx⟩
      · exact hsends.trans (by rw [hsent, sentOf, sentOf, List.filterMap_append]; rfl)
      · rw [handedOf, List.filterMap_append]
        exact hhanded.trans (List.append_nil _).symm
    | error e socket =>
      rw [hx] at hsends
      rw [bind_of_error (zoom_of_error (c := socketPart) hx)]
      exact ⟨[], List.nil_prefix, hsends.trans (by rw [List.append_nil]; exact hsent),
        by rw [List.append_nil]; exact hhanded⟩

/-- One message, with what holds of the context, which stays as it is. -/
theorem message_emits {α : Type} {C : DatagramContext P.Write → Prop}
    {rest : Traced (Exit Error) (DatagramState P) α} {Q : α → DatagramState P → Prop}
    {R : Exit Error → DatagramState P → Prop} (hfail : ∀ e s, Within outs [] s → R e s)
    (hrest : ∀ more outbound codec,
      P.emit (pipeline.outbound, pipeline.codec) (info, peer, msg) =
        (more, some (outbound, codec)) →
      Triple (fun _ => True)
        (fun s => s.At (outs ++ more) { pipeline with outbound, codec } [] ∧ C s.ctx) rest Q R) :
    Triple (fun _ => True) (fun s => s.At outs pipeline [] ∧ C s.ctx) (do
      step (modify (processing info peer msg))
      await (encodeDatagramOutbound info msg)
      await (flushDatagram peer)
      rest) Q R := by
  apply Triple.bind (Q := fun _ s => s.At outs pipeline [] ∧ C s.ctx)
  · exact Triple.step fun s ⟨hs, hctx⟩ =>
      ⟨trivial, ⟨hs.sent, hs.handed, hs.pipeline, hs.buf⟩, hctx⟩
  intro _
  apply Triple.bind (Q := fun _ s => s.Encoded outs pipeline info peer msg ∧ C s.ctx)
  · exact await_triple fun s hs => (outbound_emits hs.1 hs.2).mono (fun _ _ ht => ⟨trivial, ht⟩)
      fun _ _ ht => ⟨trivial, hfail _ _ ht⟩
  intro _
  apply Triple.bind (Q := fun _ s => s.Emitted outs pipeline info peer msg ∧ C s.ctx)
  · exact await_triple fun s hs => (flushDatagram_emits hs.1 hs.2).mono
      (fun _ _ ht => ⟨trivial, ht⟩) fun _ _ ht => ⟨trivial, hfail _ _ ht⟩
  · rintro _ s ⟨⟨more, outbound, codec, hemit, hs⟩, hctx⟩
    exact hrest more outbound codec hemit s ⟨hs, hctx⟩

/-! ## Draining the outbox -/

/-- The outputs of these messages. -/
def outputsOf (pipeline : DatagramPipeline P) (info : DatagramInfo)
    (msgs : List (SocketAddr × P.Write)) : List (SocketOutput P.Item) :=
  P.emit.outputs (pipeline.outbound, pipeline.codec) (msgs.map (info, ·))

/-- What a handler has done so far. -/
structure Progress (W : Type) where
  written : List (SocketAddr × W) := []
  flushes : Sender := 0
  closes : Bool := false

/-- The messages of the handler are sent up to those of the commands, and the flushes it asked for
are answered up to those of the commands. -/
structure Emitting (outs : List (SocketOutput P.Item)) (pipeline : DatagramPipeline P)
    (info : DatagramInfo) (progress : Progress P.Write)
    (commands : List (DatagramOutboxCommand P.Write)) (s : DatagramState P) : Prop where
  emitted : ∃ done more outbound codec, progress.written = done ++ messages commands ∧
    P.emit.run (pipeline.outbound, pipeline.codec) (done.map (info, ·)) =
      (more, some (outbound, codec)) ∧
    s.At (outs ++ more) { pipeline with outbound, codec } []
  asked : ∀ done < progress.flushes, (done, .ok ()) ∈ s.ctx.acks ∨ done ∈ flushes commands
  acks : ∀ ack ∈ s.ctx.acks, ack.1 < progress.flushes ∧ ack.2 = .ok ()
  flushes : ∀ done ∈ flushes commands, done < progress.flushes
  count : s.ctx.flushes = progress.flushes
  closes : s.ctx.closeRequested = progress.closes

variable {written written' : List (SocketAddr × P.Write)} {progress : Progress P.Write}
  {commands : List (DatagramOutboxCommand P.Write)}

theorem outputsOf_mono (h : written <+: written') :
    outputsOf pipeline info written <+: outputsOf pipeline info written' :=
  Transducer.outputs_mono (h.map _)

theorem Emitting.within (h : s.Emitting outs pipeline info progress commands)
    (hwritten : progress.written <+: written') :
    s.Within outs (outputsOf pipeline info written') := by
  obtain ⟨done, more, outbound, codec, hdone, hrun, hat⟩ := h.emitted
  have hmore : more = outputsOf pipeline info done := (congrArg (·.1) hrun).symm
  have hwithin := (hat.within : s.Within (outs ++ more) []).behind
  rw [List.append_nil, hmore] at hwithin
  exact hwithin.mono (outputsOf_mono ((hdone ▸ List.prefix_append _ _).trans hwritten))

/-- A program that may fail, where this much is going to be written. -/
abbrev Emits {α : Type} (outs : List (SocketOutput P.Item)) (pipeline : DatagramPipeline P)
    (info : DatagramInfo) (written' : List (SocketAddr × P.Write)) (K : DatagramState P → Prop)
    (x : Traced (Exit Error) (DatagramState P) α) (Q : α → DatagramState P → Prop) : Prop :=
  Triple (fun _ => True) K x Q fun _ => Within outs (outputsOf pipeline info written')

theorem drainCommands_emits (hwritten : progress.written <+: written')
    (commands : List (DatagramOutboxCommand P.Write)) :
    Emits outs pipeline info written'
      (fun s => s.Emitting outs pipeline info progress commands ∧ s.ctx.outbox = [])
      (drainCommands info commands)
      fun _ s => s.Emitting outs pipeline info progress [] ∧ s.ctx.outbox = [] := by
  induction commands with
  | nil => exact Triple.pure fun s hs => hs
  | cons command commands ih =>
    cases command with
    | write msg =>
      rintro s ⟨hs, houtbox⟩
      obtain ⟨done, more, outbound, codec, hdone, hrun, hat⟩ := hs.emitted
      rw [messages_write, List.append_cons] at hdone
      refine message_emits (C := (· = s.ctx)) (fun _ t ht => ?_)
        (fun more' outbound' codec' hemit => ?_)
        s ⟨hat, rfl⟩
      · have hmore : more = outputsOf pipeline info done := (congrArg (·.1) hrun).symm
        have hbehind := ht.behind
        rw [List.append_nil, hmore] at hbehind
        refine hbehind.mono (outputsOf_mono (List.IsPrefix.trans ?_ hwritten))
        rw [hdone, List.append_assoc]
        exact List.prefix_append _ _
      · refine ih.pre fun t ⟨ht, hctx⟩ => ⟨⟨?_, ?_, ?_, ?_, ?_, ?_⟩, hctx ▸ houtbox⟩
        · refine ⟨done ++ [msg], more ++ more', outbound', codec', hdone, ?_, ?_⟩
          · rw [List.map_append, List.map_singleton, Transducer.run_concat_of_some hrun]
            exact congrArg (fun x => (more ++ x.1, x.2)) hemit
          · rw [← List.append_assoc]
            exact ht
        · exact hctx ▸ hs.asked
        · exact hctx ▸ hs.acks
        · exact hs.flushes
        · exact hctx ▸ hs.count
        · exact hctx ▸ hs.closes
    | flush done =>
      refine Triple.bind ?_ fun _ => ih
      refine Triple.step fun s ⟨hs, houtbox⟩ =>
        ⟨trivial, ⟨?_, ?_, ?_, ?_, hs.count, hs.closes⟩, houtbox⟩
      · obtain ⟨before, more, outbound, codec, hdone, hrun, hat⟩ := hs.emitted
        exact ⟨before, more, outbound, codec, hdone, hrun, hat.sent, hat.handed, hat.pipeline,
          hat.buf⟩
      · intro d hd
        rcases hs.asked d hd with hd | hd
        · exact .inl (List.mem_append_left _ hd)
        · rcases List.mem_cons.1 hd with rfl | hd
          · exact .inl (List.mem_append_right _ (.head _))
          · exact .inr hd
      · intro ack hack
        rcases List.mem_append.1 hack with hack | hack
        · exact hs.acks ack hack
        · rw [List.mem_singleton.1 hack]
          exact ⟨hs.flushes done (.head _), rfl⟩
      · exact fun d hd => hs.flushes d (.tail _ hd)

theorem drainDatagramOutbox_emits (hwritten : progress.written <+: written') :
    Emits outs pipeline info written'
      (fun s => s.Emitting outs pipeline info progress s.ctx.outbox) (drainDatagramOutbox info)
      fun _ s => s.Emitting outs pipeline info progress [] ∧ s.ctx.outbox = [] := by
  apply Triple.bind (Q := fun commands s =>
    s.Emitting outs pipeline info progress commands ∧ s.ctx.outbox = [])
  · refine await_triple fun s hs => ⟨trivial, ⟨?_, hs.asked, hs.acks, hs.flushes, hs.count,
      hs.closes⟩, rfl⟩
    obtain ⟨done, more, outbound, codec, hdone, hrun, hat⟩ := hs.emitted
    exact ⟨done, more, outbound, codec, hdone, hrun, hat.sent, hat.handed, hat.pipeline, hat.buf⟩
  · exact fun commands => drainCommands_emits hwritten commands

/-! ## The handler -/

/-- The handler waits, and its outbox is drained if it has asked for a flush. -/
theorem pending_emits (hwritten : progress.written <+: written') :
    Emits outs pipeline info written'
      (fun s => s.Emitting outs pipeline info progress s.ctx.outbox) (handlerRuntime info).pending
      fun _ s => s.Emitting outs pipeline info progress s.ctx.outbox ∧
        RsNetty.flushes s.ctx.outbox = [] := by
  refine Triple.look_bind fun s hs => ?_
  split
  · refine (drainDatagramOutbox_emits hwritten).mono (fun t ht => ht ▸ hs) (fun _ t ht => ?_)
      fun _ _ ht => ht
    rw [ht.2]
    exact ⟨ht.1, rfl⟩
  next hflush =>
    refine Triple.pure fun t ht => ht ▸ ⟨hs, ?_⟩
    rw [RsNetty.flushes, List.filterMap_eq_nil_iff]
    intro command hcommand
    cases command with
    | write msg => rfl
    | flush done => exact (hflush (List.any_eq_true.2 ⟨_, hcommand, rfl⟩)).elim

/-- A flush that was asked for is answered with `Ok`, and no other one. -/
theorem Emitting.lookup (h : s.Emitting outs pipeline info progress commands) (done : Sender) :
    s.ctx.acks.lookup done = none ∨
      done < progress.flushes ∧ s.ctx.acks.lookup done = some (.ok ()) := by
  cases hlookup : s.ctx.acks.lookup done with
  | none => exact .inl rfl
  | some ack =>
    obtain ⟨before, after, hacks, -⟩ := List.lookup_eq_some_iff.1 hlookup
    obtain ⟨hlt, hok⟩ := h.acks (done, ack) (hacks ▸ by simp)
    exact .inr ⟨hlt, congrArg some hok⟩

theorem Emitting.lookup_asked (h : s.Emitting outs pipeline info progress commands)
    (hflushes : RsNetty.flushes commands = []) {done : Sender} (hdone : done < progress.flushes) :
    s.ctx.acks.lookup done = some (.ok ()) := by
  rcases h.lookup done with hnone | ⟨-, hsome⟩
  · rcases h.asked done hdone with hack | hflush
    · exact absurd (List.lookup_eq_none_iff.1 hnone _ hack) (by simp)
    · rw [hflushes] at hflush
      cases hflush
  · exact hsome

theorem Emitting.write (h : s.Emitting outs pipeline info progress s.ctx.outbox)
    (msg : SocketAddr × P.Write) :
    (s.pushWrite msg).Emitting outs pipeline info
      { progress with written := progress.written ++ [msg] } (s.pushWrite msg).ctx.outbox := by
  have houtbox : (s.pushWrite msg).ctx.outbox = s.ctx.outbox ++ [.write msg] := rfl
  rw [houtbox]
  refine ⟨?_, ?_, h.acks, ?_, h.count, h.closes⟩
  · obtain ⟨done, more, outbound, codec, hdone, hrun, hat⟩ := h.emitted
    refine ⟨done, more, outbound, codec, ?_, hrun, hat.sent, hat.handed, hat.pipeline, hat.buf⟩
    rw [hdone, messages_append, List.append_assoc]
    rfl
  · rw [flushes_append]
    exact fun done hdone => (h.asked done hdone).imp id (List.mem_append_left _)
  · simpa using h.flushes

theorem Emitting.flush (h : s.Emitting outs pipeline info progress s.ctx.outbox) :
    (pushFlush s).Holds (fun done t => done = progress.flushes ∧
        t.Emitting outs pipeline info { progress with flushes := progress.flushes + 1 }
          t.ctx.outbox) fun _ _ => False := by
  refine ⟨h.count, ?_, fun done hdone => ?_, fun ack hack => ?_, fun done hdone => ?_,
    congrArg (· + 1) h.count, h.closes⟩
  · obtain ⟨done, more, outbound, codec, hdone, hrun, hat⟩ := h.emitted
    refine ⟨done, more, outbound, codec, ?_, hrun, hat.sent, hat.handed, hat.pipeline, hat.buf⟩
    change progress.written = done ++ messages (s.ctx.outbox ++ [.flush s.ctx.flushes])
    rw [hdone, messages_append, messages_flush, messages_nil, List.append_nil]
  · change _ ∨ done ∈ RsNetty.flushes (s.ctx.outbox ++ [.flush s.ctx.flushes])
    rw [flushes_append, h.count]
    rcases Nat.lt_succ_iff_lt_or_eq.1 hdone with hlt | rfl
    · rcases h.asked done hlt with hack | hflush
      · exact .inl hack
      · exact .inr (List.mem_append_left _ hflush)
    · exact .inr (List.mem_append_right _ (.head _))
  · obtain ⟨hlt, hok⟩ := h.acks ack hack
    exact ⟨Nat.lt_succ_of_lt hlt, hok⟩
  · change done ∈ RsNetty.flushes (s.ctx.outbox ++ [.flush s.ctx.flushes]) at hdone
    rw [flushes_append, h.count] at hdone
    rcases List.mem_append.1 hdone with hdone | hdone
    · exact Nat.lt_succ_of_lt (h.flushes done hdone)
    · rw [List.mem_singleton.1 hdone]
      exact Nat.lt_succ_self _

/-- What the handler hears of a flush that it awaits. -/
theorem received_emits {done : Sender}
    {rest : Except Error Unit → HandlerFuture P.H (SocketAddr × P.Write)}
    {Q : Except Error Unit × P.H → DatagramState P → Prop}
    (hfirst : progress.written <+: written')
    (hrest : done < progress.flushes → Emits outs pipeline info written'
      (fun s => s.Emitting outs pipeline info progress s.ctx.outbox)
      ((handlerRuntime info).pollHandler (rest (.ok ()))) Q) :
    Emits outs pipeline info written'
      (fun s => s.Emitting outs pipeline info progress s.ctx.outbox ∧
        (done < progress.flushes → s.ctx.acks.lookup done = some (.ok ())))
      (do
        let ack ← (handlerRuntime info).received done
        (handlerRuntime info).pollHandler (rest ack)) Q := by
  apply Triple.bind (Q := fun ack s => s.Emitting outs pipeline info progress s.ctx.outbox ∧
    done < progress.flushes ∧ ack = .ok ())
  · refine Triple.look_bind fun s ⟨hs, hasked⟩ => ?_
    split
    next ack hack =>
      refine Triple.pure fun t ht => ht ▸ ⟨hs, ?_⟩
      rcases hs.lookup done with hnone | ⟨hlt, hok⟩
      · cases hnone.symm.trans hack
      · exact ⟨hlt, Option.some.inj (hack.symm.trans hok)⟩
    next => exact Triple.fail fun t ht => ht ▸ hs.within hfirst
  · rintro _ s ⟨hs, hlt, rfl⟩
    exact hrest hlt s hs

/-- The loop over `handler.poll` follows the course of the handler. -/
theorem pollHandler_emits (future : HandlerFuture P.H (SocketAddr × P.Write))
    (progress : Progress P.Write) (written' : List (SocketAddr × P.Write))
    (hwritten : progress.written ++ (future.course progress.flushes).writes = written') :
    Emits outs pipeline info written'
      (fun s => s.Emitting outs pipeline info progress s.ctx.outbox)
      ((handlerRuntime info).pollHandler future)
      fun polled s => (future.course progress.flushes).ends = some polled ∧
        ∃ flushes, s.Emitting outs pipeline info
          ⟨written', flushes, progress.closes || (future.course progress.flushes).closes⟩
          s.ctx.outbox := by
  have hfirst : progress.written <+: written' := hwritten ▸ List.prefix_append _ _
  induction future generalizing progress with
  | ready result handler =>
    refine Triple.pure fun s hs => ⟨rfl, progress.flushes, ?_⟩
    have hwritten : progress.written ++ [] = written' := hwritten
    rw [List.append_nil] at hwritten
    rw [← hwritten, show (HandlerFuture.course (.ready result handler) progress.flushes).closes =
      false from rfl, Bool.or_false]
    exact hs
  | panic => exact Triple.fail fun s hs => hs.within hfirst
  | write msg rest ih =>
    apply Triple.bind (Q := fun _ s => s.Emitting outs pipeline info
      { progress with written := progress.written ++ [msg] } s.ctx.outbox)
    · exact Triple.step fun s hs => ⟨trivial, hs.write msg⟩
    · intro _
      have hnext : (progress.written ++ [msg]) ++ (rest.course progress.flushes).writes =
          written' := (List.append_cons _ _ _).symm.trans hwritten
      exact ih { progress with written := progress.written ++ [msg] } hnext
        (hnext ▸ List.prefix_append _ _)
  | pushFlush rest ih =>
    apply Triple.bind (Q := fun done s => done = progress.flushes ∧ s.Emitting outs pipeline info
      { progress with flushes := progress.flushes + 1 } s.ctx.outbox)
    · exact await_triple fun s hs => hs.flush.mono (fun _ _ ht => ⟨trivial, ht⟩)
        fun _ _ ht => ht.elim
    · rintro _ s ⟨rfl, hs⟩
      exact ih progress.flushes { progress with flushes := progress.flushes + 1 } hwritten hfirst
        s hs
  | awaitFlush done rest ih =>
    let course := HandlerFuture.course (.awaitFlush done rest) progress.flushes
    have hrest (hlt : done < progress.flushes) : Emits outs pipeline info written'
        (fun s => s.Emitting outs pipeline info progress s.ctx.outbox)
        ((handlerRuntime info).pollHandler (rest (.ok ())))
        fun polled s => course.ends = some polled ∧ ∃ flushes, s.Emitting outs pipeline info
          ⟨written', flushes, progress.closes || course.closes⟩ s.ctx.outbox := by
      have hcourse : course = (rest (.ok ())).course progress.flushes := if_pos hlt
      change progress.written ++ course.writes = written' at hwritten
      rw [hcourse] at hwritten ⊢
      exact ih (.ok ()) progress hwritten hfirst
    refine Triple.look_bind fun s hs => ?_
    split
    · refine Triple.bind ((pending_emits hfirst).pre fun t ht => ht ▸ hs) fun _ => ?_
      exact (received_emits hfirst hrest).pre fun t ht =>
        ⟨ht.1, fun hlt => ht.1.lookup_asked ht.2 hlt⟩
    next hlookup =>
      exact (received_emits hfirst hrest).pre fun t ht =>
        ht ▸ ⟨hs, fun _ => ((hs.lookup _).resolve_left hlookup).2⟩
  | suspend rest ih =>
    refine Triple.bind (pending_emits hfirst) fun _ => (ih progress hwritten hfirst).pre ?_
    exact fun s hs => hs.1
  | close rest ih =>
    apply Triple.bind (Q := fun _ s => s.Emitting outs pipeline info
      { progress with closes := true } s.ctx.outbox)
    · refine Triple.step fun s hs => ⟨trivial, ?_, hs.asked, hs.acks, hs.flushes, hs.count, rfl⟩
      obtain ⟨done, more, outbound, codec, hdone, hrun, hat⟩ := hs.emitted
      exact ⟨done, more, outbound, codec, hdone, hrun, hat.sent, hat.handed, hat.pipeline, hat.buf⟩
    · intro _
      have hrest := ih { progress with closes := true } hwritten hfirst
      rw [show (HandlerFuture.course (.close rest) progress.flushes).closes = true from rfl,
        Bool.or_true]
      rwa [Bool.true_or] at hrest

/-! ## One datagram -/

theorem handle_outputs (info : DatagramInfo) (pipeline : DatagramPipeline P) (msg : P.CurrentIn) :
    (P.handle info pipeline msg).1 =
      outputsOf pipeline info ((P.read info pipeline.handler msg).course 0).writes := by
  unfold DatagramStages.handle outputsOf Transducer.outputs
  dsimp only
  split
  next outs hrun => rw [hrun]
  next outs outbound codec hrun =>
    rw [hrun]
    split <;> rfl

/-- A program that leads to what a function gives for the pipeline, unless it fails. -/
abbrev Gives {α : Type} (outs : List (SocketOutput P.Item))
    (given : List (SocketOutput P.Item) × Option (DatagramPipeline P × Bool))
    (K : DatagramState P → Prop) (x : Traced (Exit Error) (DatagramState P) α) : Prop :=
  Triple (fun _ => True) K x
    (fun _ s => ∃ pipeline, given.2 = some (pipeline, s.ctx.closeRequested) ∧
      s.At (outs ++ given.1) pipeline [])
    fun _ => Within outs given.1

theorem runHandler_gives (msg : P.CurrentIn) :
    Gives outs (P.handle info pipeline msg) (fun s => s.At outs pipeline [] ∧ s.ctx = {})
      (runHandler info msg) := by
  let course := (P.read info pipeline.handler msg).course 0
  have hfail (s : DatagramState P)
      (hs : s.Within outs (outputsOf pipeline info course.writes)) :
      s.Within outs (P.handle info pipeline msg).1 := by
    rwa [handle_outputs]
  refine Triple.look_bind fun s ⟨hs, hctx⟩ => ?_
  rw [hs.pipeline]
  have hpoll : Emits outs pipeline info course.writes
      (fun s => s.Emitting outs pipeline info {} s.ctx.outbox) _ _ :=
    pollHandler_emits (P.read info pipeline.handler msg) {} course.writes (List.nil_append _)
  refine Triple.bind (hpoll.mono (fun t ht => ht ▸ ?_) (fun _ _ ht => ht) fun _ t ht => hfail t ht)
    ?_
  · rw [hctx]
    refine ⟨⟨[], [], _, _, rfl, rfl, ?_⟩, nofun, ?_, nofun, ?_, ?_⟩
    · exact (List.append_nil outs).symm ▸ hs
    · rw [hctx]
      exact nofun
    · rw [hctx]
    · rw [hctx]
  rintro ⟨result, next⟩ t ⟨hends, flushes, ht⟩
  -- What is left in the outbox is sent before the result counts.
  let Done (commands : List (DatagramOutboxCommand P.Write)) (s : DatagramState P) : Prop :=
    s.Emitting outs { pipeline with handler := next } info ⟨course.writes, flushes, course.closes⟩
      commands
  let Polled (s : DatagramState P) : Prop :=
    s.Emitting outs pipeline info ⟨course.writes, flushes, course.closes⟩ s.ctx.outbox
  have hset (u : DatagramState P) (hu : Polled u) : Done u.ctx.outbox (setHandler next u) := by
    refine ⟨?_, hu.asked, hu.acks, hu.flushes, hu.count, hu.closes⟩
    obtain ⟨done, more, outbound, codec, hdone, hrun, hat⟩ := hu.emitted
    refine ⟨done, more, outbound, codec, hdone, hrun, hat.sent, hat.handed, ?_, hat.buf⟩
    exact congrArg (fun p : DatagramPipeline P => { p with handler := next }) hat.pipeline
  have ht : Polled t := ht
  apply Triple.bind (Q := fun _ s => Done s.ctx.outbox s) ?_ (fun _ => ?_) t ht
  · exact Triple.step fun u hu => ⟨trivial, hset u hu⟩
  refine Triple.bind (Q := fun _ s => Done [] s) ?_ fun _ => ?_
  · exact (drainDatagramOutbox_emits List.prefix_rfl).mono (fun _ hu => hu) (fun _ _ hu => hu.1)
      fun _ u hu => hfail u hu
  · refine propagate_triple (fun _ u hresult hu => ?_) fun err u hresult hu => ?_
    · obtain ⟨done, more, outbound, codec, hdone, hrun, hat⟩ := hu.emitted
      rw [messages_nil, List.append_nil] at hdone
      subst hresult hdone
      have hhandle : P.handle info pipeline msg =
          (more, some ({ pipeline with codec, handler := next, outbound }, course.closes)) := by
        simp only [DatagramStages.handle]
        rw [hrun]
        dsimp only
        rw [hends]
      rw [hhandle, hu.closes]
      exact ⟨_, rfl, hat⟩
    · exact hfail u (hu.within List.prefix_rfl)

/-- A stage, of which the state is known. -/
theorem stage_gives {σ β : Type} {c : Component (DatagramState P) σ} {x : Exec σ (Flow β)}
    {given : List (SocketOutput P.Item)} (st : σ) (next : σ → DatagramPipeline P)
    (hget : ∀ s, s.At outs pipeline [] → c.get s = st)
    (hset : ∀ st' s, s.At outs pipeline [] →
      (c.set st' s).At outs (next st') [] ∧ (c.set st' s).ctx = s.ctx) :
    Triple (fun _ => True) (fun s => s.At outs pipeline [] ∧ s.ctx = {}) (await (EStateM.zoom c x))
      (fun flow s => ∃ st', x st = .ok flow st' ∧ s.At outs (next st') [] ∧ s.ctx = {})
      fun _ => Within outs given := by
  refine await_triple fun s ⟨hs, hctx⟩ => ?_
  cases hx : x (c.get s) with
  | ok flow st' =>
    rw [zoom_of_ok hx]
    obtain ⟨hat, hsame⟩ := hset st' s hs
    exact ⟨trivial, st', hget s hs ▸ hx, hat, hsame.trans hctx⟩
  | error e st' =>
    rw [zoom_of_error hx]
    exact ⟨trivial, (hset st' s hs).1.within⟩

/-- A stage stops the message. -/
theorem stop_gives : Gives outs ([], some (pipeline, false))
    (fun s => s.At outs pipeline [] ∧ s.ctx = {}) (pure ()) := by
  refine Triple.pure fun s hs => ⟨pipeline, ?_, ?_⟩
  · rw [hs.2]
  · rw [List.append_nil]
    exact hs.1

/-- The stages and the handler on an item. -/
theorem stages_gives (item : P.Item) :
    Gives outs (P.process info pipeline item) (fun s => s.At outs pipeline [] ∧ s.ctx = {})
      (do
        match ← await (EStateM.zoom inboundPart (P.inbound info item)) with
        | .stop => return ()
        | .next msg =>
          match ← await (EStateM.zoom businessPart (P.business info msg)) with
          | .stop => return ()
          | .next msg => runHandler info msg) := by
  have hinbound (inbound : P.InP) (s : DatagramState P) (hs : s.At outs pipeline []) :
      (inboundPart.set inbound s).At outs { pipeline with inbound } [] :=
    ⟨hs.sent, hs.handed, congrArg (fun p : DatagramPipeline P => { p with inbound }) hs.pipeline,
      hs.buf⟩
  refine Triple.bind (stage_gives (c := inboundPart) pipeline.inbound
    ({ pipeline with inbound := · }) (fun s hs => congrArg (·.inbound) hs.pipeline)
    fun inbound s hs => ⟨hinbound inbound s hs, rfl⟩) ?_
  rintro flow s ⟨inbound, hin, hs, hctx⟩
  cases flow with
  | stop =>
    have hprocess : P.process info pipeline item =
        ([], some ({ pipeline with inbound }, false)) := by
      simp only [DatagramStages.process, hin]
    rw [hprocess]
    exact stop_gives s ⟨hs, hctx⟩
  | next msg =>
    have hbusiness (business : P.BizP) (s : DatagramState P)
        (hs : s.At outs { pipeline with inbound } []) :
        (businessPart.set business s).At outs { pipeline with inbound, business } [] :=
      ⟨hs.sent, hs.handed,
        congrArg (fun p : DatagramPipeline P => { p with business }) hs.pipeline, hs.buf⟩
    refine Triple.bind (stage_gives (c := businessPart) pipeline.business
      ({ pipeline with inbound, business := · }) (fun s hs => congrArg (·.business) hs.pipeline)
      fun business s hs => ⟨hbusiness business s hs, rfl⟩) ?_ s ⟨hs, hctx⟩
    rintro flow s ⟨business, hbusiness, hs, hctx⟩
    cases flow with
    | stop =>
      have hprocess : P.process info pipeline item =
          ([], some ({ pipeline with inbound, business }, false)) := by
        simp only [DatagramStages.process, hin, hbusiness]
      rw [hprocess]
      exact stop_gives s ⟨hs, hctx⟩
    | next msg =>
      have hprocess : P.process info pipeline item =
          P.handle info { pipeline with inbound, business } msg := by
        simp only [DatagramStages.process, hin, hbusiness]
      rw [hprocess]
      exact runHandler_gives msg s ⟨hs, hctx⟩

theorem processInboundFlushable_gives (item : P.Item) :
    Gives outs (.handed info.peerAddr item :: (P.process info pipeline item).1,
        (P.process info pipeline item).2)
      (fun s => s.At outs pipeline [] ∧ s.ctx = {}) (processInboundFlushable info item) := by
  let handed : List (SocketOutput P.Item) := [.handed info.peerAddr item]
  apply Triple.bind (Q := fun _ s => s.At (outs ++ handed) pipeline [] ∧ s.ctx = {})
  · refine Triple.step fun s ⟨hs, hctx⟩ => ⟨trivial, ⟨?_, ?_, hs.pipeline, hs.buf⟩, hctx⟩
    · rw [sentOf, List.filterMap_append, ← sentOf, ← hs.sent]
      exact (List.append_nil _).symm
    · rw [handedOf, List.filterMap_append, ← handedOf, ← hs.handed]
      rfl
  · intro _
    refine (stages_gives item).mono (fun _ hs => hs) ?_ fun _ s hs => hs.behind
    rintro _ s ⟨pipeline', hgiven, hs⟩
    rw [List.append_assoc] at hs
    exact ⟨pipeline', hgiven, hs⟩

end DatagramState

/-! ## The task -/

namespace DatagramSocketRuntime
open DatagramState DatagramStages

/-- What the socket of the task is known by. -/
def site (rt : DatagramSocketRuntime P) : Site := ⟨rt.id, rt.localAddr, rt.config⟩

variable {outs : List (SocketOutput P.Item)} {pipeline : DatagramPipeline P} {site : Site}

/-- The task around its pipeline. -/
structure Doing (site : Site) (K : DatagramState P → Prop) (rt : DatagramSocketRuntime P) :
    Prop where
  site : rt.site = site
  io : K rt.io

theorem onIo_doing {α : Type} {x : Traced (Exit Error) (DatagramState P) α}
    {K : DatagramState P → Prop} {Q : α → DatagramState P → Prop}
    {R : Exit Error → DatagramState P → Prop} (h : Triple (fun _ => True) K x Q R) :
    Triple (fun _ => True) (Doing site K) (onIo x) (fun a => Doing site (Q a))
      fun e => Doing site (R e) := by
  apply Triple.zoom
  intro rt hrt
  exact h.mono (fun s hs => hs ▸ hrt.io) (fun _ _ hs => ⟨hrt.site, hs⟩) fun _ _ hs => ⟨hrt.site, hs⟩

theorem processDatagram_gives (datagram : Bytes) (peer : SocketAddr)
    (hsize : ¬site.config.maxDatagramSize < (datagram.take site.config.bufferSize).length) :
    Triple (fun _ => True) (Doing site fun s => s.At outs pipeline [])
      (processDatagram (datagram.take site.config.bufferSize) peer)
      (fun closes => Doing site fun s => ∃ pipeline',
        (P.receive site pipeline datagram peer).2 = some (pipeline', closes) ∧
        s.At (outs ++ (P.receive site pipeline datagram peer).1) pipeline' [])
      fun _ => Doing site (Within outs (P.receive site pipeline datagram peer).1) := by
  let read := datagram.take site.config.bufferSize
  have hdecode : Triple (fun _ => True) (fun s : DatagramState P => s.At outs pipeline [])
      (await (DatagramState.decodeDatagram read))
      (fun item s => ∃ codec, P.decodeDatagram read pipeline.codec = .ok item codec ∧
        s.At outs { pipeline with codec } [])
      fun _ => Within outs (P.receive site pipeline datagram peer).1 := by
    refine await_triple fun s hs => ?_
    have hcodec (codec : P.C) : (codecPart.set codec s).At outs { pipeline with codec } [] :=
      ⟨hs.sent, hs.handed, congrArg (fun p : DatagramPipeline P => { p with codec }) hs.pipeline,
        hs.buf⟩
    rw [DatagramState.decodeDatagram]
    cases hx : P.decodeDatagram read (codecPart.get s) with
    | ok item codec =>
      rw [zoom_of_ok hx]
      rw [show codecPart.get s = pipeline.codec from congrArg (·.codec) hs.pipeline] at hx
      exact ⟨trivial, codec, hx, hcodec codec⟩
    | error e codec =>
      rw [zoom_of_error hx]
      exact ⟨trivial, (hcodec codec).within⟩
  refine Triple.bind (onIo_doing hdecode) fun item => ?_
  rintro rt ⟨hsite, codec, hitem, hat⟩
  let given := P.process (site.info peer) { pipeline with codec } item
  have hgiven : P.receive site pipeline datagram peer =
      (.handed peer item :: given.1, given.2) := by
    simp only [DatagramStages.receive]
    rw [if_neg hsize, hitem]
  rw [hgiven]
  refine Triple.bind (P := Doing site fun s => s.At outs { pipeline with codec } [])
    (Q := fun _ => Doing site fun s => s.At outs { pipeline with codec } [] ∧ s.ctx = {}) ?_
    (fun _ => ?_) rt ⟨hsite, hat⟩
  · exact Triple.step fun rt hrt =>
      ⟨trivial, hrt.site, ⟨hrt.io.sent, hrt.io.handed, hrt.io.pipeline, hrt.io.buf⟩, rfl⟩
  refine Triple.look_bind fun rt hrt => ?_
  rw [show rt.info peer = site.info peer from congrArg (·.info peer) hrt.site]
  refine Triple.bind ((onIo_doing (processInboundFlushable_gives item)).pre fun t ht => ht ▸ hrt)
    fun _ => ?_
  refine Triple.look_bind fun rt hrt => Triple.pure fun t ht => ?_
  subst ht
  exact ⟨hrt.site, hrt.io⟩

theorem handleDatagram_gives (datagram : Bytes) (peer : SocketAddr) :
    Triple (fun _ => True) (Doing site fun s => s.At outs pipeline [])
      (handleDatagram datagram peer)
      (fun closes => Doing site fun s => ∃ pipeline',
        (P.receive site pipeline datagram peer).2 = some (pipeline', closes) ∧
        s.At (outs ++ (P.receive site pipeline datagram peer).1) pipeline' [])
      fun _ => Doing site (Within outs (P.receive site pipeline datagram peer).1) := by
  refine Triple.look_bind fun rt hrt => ?_
  rw [show rt.received datagram = datagram.take site.config.bufferSize from
    congrArg (fun site : Site => datagram.take site.config.bufferSize) hrt.site,
    show rt.config = site.config from congrArg (·.config) hrt.site]
  dsimp only
  split
  · exact Triple.fail fun t ht => ht ▸ ⟨hrt.site, hrt.io.within⟩
  next hsize => exact (processDatagram_gives datagram peer hsize).pre fun t ht => ht ▸ hrt

/-- A message of the command queue. -/
theorem writeMessage_gives (peer : SocketAddr) (msg : P.Write) :
    Triple (fun _ => True) (Doing site fun s => s.At outs pipeline []) (writeMessage peer msg)
      (fun _ => Doing site fun s => ∃ pipeline',
        (P.write site pipeline peer msg).2 = some pipeline' ∧
        s.At (outs ++ (P.write site pipeline peer msg).1) pipeline' [])
      fun _ => Doing site (Within outs (P.write site pipeline peer msg).1) := by
  have hfail (s : DatagramState P) (hs : s.Within outs []) :
      s.Within outs (P.write site pipeline peer msg).1 := hs.mono List.nil_prefix
  apply Triple.bind (Q := fun _ => Doing site fun s => s.At outs pipeline [])
  · exact Triple.step fun rt hrt =>
      ⟨trivial, hrt.site, hrt.io.sent, hrt.io.handed, hrt.io.pipeline, hrt.io.buf⟩
  intro _
  refine Triple.look_bind fun rt hrt => ?_
  rw [show rt.info peer = site.info peer from congrArg (·.info peer) hrt.site]
  apply Triple.bind (Q := fun _ => Doing site fun s => s.At outs pipeline [])
  · refine (onIo_doing (K := fun s => s.At outs pipeline []) ?_).pre fun t ht => ht ▸ hrt
    exact Triple.step fun s hs => ⟨trivial, hs.sent, hs.handed, hs.pipeline, hs.buf⟩
  intro _
  apply Triple.bind (Q := fun _ => Doing site fun s =>
    s.Encoded outs pipeline (site.info peer) peer msg)
  · refine onIo_doing (await_triple fun s hs => ?_)
    exact (outbound_emits (C := fun _ => True) hs trivial).mono (fun _ _ ht => ⟨trivial, ht.1⟩)
      fun _ _ ht => ⟨trivial, hfail _ ht⟩
  intro _
  refine onIo_doing (await_triple fun s hs => ?_)
  refine (flushDatagram_emits (C := fun _ => True) hs trivial).mono (fun _ t ht => ?_)
    fun _ _ ht => ⟨trivial, hfail _ ht⟩
  obtain ⟨⟨more, outbound, codec, hemit, hat⟩, -⟩ := ht
  have hwrite : P.write site pipeline peer msg =
      (more, some { pipeline with outbound, codec }) := by
    simp only [DatagramStages.write, hemit, Option.map_some]
  rw [hwrite]
  exact ⟨trivial, _, rfl, hat⟩

/-- A command that is answered. -/
theorem writeToAndFlush_gives (peer : SocketAddr) (msg : P.Write) (done : Sender) :
    Triple (fun _ => True) (Doing site fun s => s.At outs pipeline [])
      (handleCommand (some (.writeToAndFlush peer msg done)))
      (fun stopped rt => stopped = false ∧ Doing site (fun s => ∃ pipeline',
        (P.write site pipeline peer msg).2 = some pipeline' ∧
        s.At (outs ++ (P.write site pipeline peer msg).1) pipeline' []) rt)
      fun _ => Doing site (Within outs (P.write site pipeline peer msg).1) := by
  apply Triple.bind (Q := fun _ => Doing site fun s => s.At outs pipeline [])
  · exact Triple.step fun rt hrt => ⟨trivial, hrt.site, hrt.io⟩
  intro _
  refine report_triple (K := Doing site fun s => ∃ pipeline',
    (P.write site pipeline peer msg).2 = some pipeline' ∧
    s.At (outs ++ (P.write site pipeline peer msg).1) pipeline' [])
    (writeMessage_gives peer msg) ?_ ?_ ?_ ?_ ?_
  · exact fun rt hrt => ⟨trivial, hrt.site, hrt.io⟩
  · exact fun _ rt hrt => ⟨trivial, hrt.site, hrt.io⟩
  · exact fun rt hrt => hrt
  · exact fun rt hrt => hrt
  · exact Triple.pure fun rt hrt => ⟨rfl, hrt⟩

/-- A turn of the loop does what the transducer does about the event. -/
theorem select_gives (event : SocketEvent P.Write) :
    Triple (fun _ => True) (Doing site fun s => s.At outs pipeline []) (select event)
      (fun stopped => Doing site fun s => ∃ pipeline',
        s.At (outs ++ (P.serve site pipeline event).1) pipeline' [] ∧
        (stopped = false → (P.serve site pipeline event).2 = some pipeline'))
      fun _ => Doing site (Within outs (P.serve site pipeline event).1) := by
  have hstop : Triple (fun _ => True) (Doing site fun s : DatagramState P => s.At outs pipeline [])
      (pure true : SocketTask P Bool)
      (fun stopped => Doing site fun s => ∃ pipeline', s.At (outs ++ []) pipeline' [] ∧
        (stopped = false → (none : Option (DatagramPipeline P)) = some pipeline'))
      fun _ => Doing site (Within outs []) := by
    refine Triple.pure fun rt hrt => ⟨hrt.site, pipeline, ?_, nofun⟩
    exact (List.append_nil outs).symm ▸ hrt.io
  cases event with
  | recv read =>
    cases read with
    | error err => exact Triple.fail fun rt hrt => ⟨hrt.site, hrt.io.within⟩
    | ok read =>
      obtain ⟨datagram, peer⟩ := read
      refine (handleDatagram_gives datagram peer).mono (fun _ hrt => hrt) ?_ fun _ _ hrt => hrt
      rintro closes rt ⟨hsite, pipeline', hgiven, hat⟩
      refine ⟨hsite, pipeline', hat, ?_⟩
      rintro rfl
      change Option.bind (P.receive site pipeline datagram peer).2 _ = _
      rw [hgiven]
      rfl
  | shutdown => exact hstop
  | command cmd =>
    cases cmd with
    | none => exact hstop
    | some cmd =>
      cases cmd with
      | close => exact hstop
      | writeTo peer msg =>
        refine Triple.bind (writeMessage_gives peer msg) fun _ => Triple.pure ?_
        rintro rt ⟨hsite, pipeline', hgiven, hat⟩
        exact ⟨hsite, pipeline', hat, fun _ => hgiven⟩
      | writeToAndFlush peer msg done =>
        refine (writeToAndFlush_gives peer msg done).mono (fun _ hrt => hrt) ?_ fun _ _ hrt => hrt
        rintro _ rt ⟨-, hsite, pipeline', hgiven, hat⟩
        exact ⟨hsite, pipeline', hat, fun _ => hgiven⟩

end DatagramSocketRuntime

end RsNetty

import Mathlib.Data.List.Infix
import Mathlib.Data.List.Nodup
import RsNetty.Channel.Stream
import RsNetty.Verify.Acknowledgement
import RsNetty.Verify.Tcp.Outbound

/-!
# Acknowledgements of TCP writes

An `Ok` for a flush or for a `write_and_flush` is sent only once the encodings of the messages it
covers are on the socket. While messages are accepted, processed and sent nothing is taken back
(`Grows`), so that an acknowledgement stays sound; `Owes` accounts for the messages and the flushes
that still wait.
-/

namespace RsNetty
open EStateM Traced

variable {P : StreamStages}

namespace StreamState

/-- The first `n` messages accepted are encoded, and their encodings are on the socket. -/
def Covers (n : Nat) (s : StreamState P) : Prop :=
  ∃ ps, ps <+: s.history.processed ∧ n ≤ ps.length ∧ (∀ p ∈ ps, p.Accepted) ∧
    frames ps <+: s.stream.sent

/-- Nothing that was there before has been taken back. -/
def Grows (base s : StreamState P) : Prop :=
  base.history.accepted <+: s.history.accepted ∧
    base.history.processed <+: s.history.processed ∧ base.stream.sent <+: s.stream.sent

/-- What an observer may rely on: an `Ok` for a flush covers what was accepted before it, and no
flush is answered twice. -/
structure Acked (s : StreamState P) : Prop where
  order : s.history.processed.map (·.msg) <+: s.history.accepted
  sound : s.ctx.acks.Sound s.ctx.asked (Covers · s)
  once : s.ctx.acks.map (·.1) <+: List.range s.ctx.flushes
  numbered : s.ctx.asked.map (·.1) = List.range s.ctx.flushes

/-- The state of a program that started at `base`. -/
def Watched (base s : StreamState P) : Prop := Grows base s ∧ s.Acked

/-- All that is accepted and not processed is what the commands write, and all flushes that are not
answered are theirs. -/
structure Owes (base : StreamState P) (outbox commands : List (StreamOutboxCommand P.Write))
    (s : StreamState P) : Prop where
  grows : Grows base s
  outbox : s.ctx.outbox = outbox
  order : s.history.accepted = s.history.processed.map (·.msg) ++ messages commands
  asked : Asked s.ctx.asked s.history.accepted.length commands
  sound : s.ctx.acks.Sound s.ctx.asked (Covers · s)
  answered : s.ctx.acks.map (·.1) ++ flushes commands = List.range s.ctx.flushes
  numbered : s.ctx.asked.map (·.1) = List.range s.ctx.flushes
  bytes : s.stream.sent ++ s.writeBuf = frames s.history.processed
  encoded : ∀ p ∈ s.history.processed, p.Accepted

variable {base s t u : StreamState P} {n : Nat} {msg : P.Write} {done : Sender}
  {outbox commands : List (StreamOutboxCommand P.Write)}

theorem Grows.refl (s : StreamState P) : Grows s s :=
  ⟨List.prefix_rfl, List.prefix_rfl, List.prefix_rfl⟩

theorem Grows.trans (h : Grows s t) (h' : Grows t u) : Grows s u :=
  ⟨h.1.trans h'.1, h.2.1.trans h'.2.1, h.2.2.trans h'.2.2⟩

theorem Covers.grows (h : Covers n s) (hst : Grows s t) : Covers n t := by
  obtain ⟨ps, hps, hn, hencoded, hframes⟩ := h
  exact ⟨ps, hps.trans hst.2.1, hn, hencoded, hframes.trans hst.2.2⟩

theorem Owes.watched (h : base.Owes outbox commands s) : base.Watched s :=
  ⟨h.grows, ⟨_, h.order.symm⟩, h.sound, ⟨_, h.answered⟩, h.numbered⟩

/-- Once the buffer is empty, all that was accepted before the commands is on the socket. -/
theorem Owes.covers (h : base.Owes outbox commands s) (hempty : s.writeBuf = [])
    (hn : n + (messages commands).length ≤ s.history.accepted.length) : s.Covers n := by
  have horder := congrArg List.length h.order
  rw [List.length_append, List.length_map] at horder
  have hbytes := h.bytes
  rw [hempty, List.append_nil] at hbytes
  exact ⟨s.history.processed, List.prefix_rfl, by omega, h.encoded, hbytes ▸ List.prefix_rfl⟩

/-! ## Encoding and flushing -/

/-- A program on the connection whose acknowledgements are sound throughout. -/
abbrev Answers {α : Type} (base : StreamState P) (P₀ : StreamState P → Prop)
    (x : Traced (Exit Error) (StreamState P) α) (Q : α → StreamState P → Prop) : Prop :=
  Triple base.Watched P₀ x Q fun _ => base.Watched

theorem outboundFrame_answers (happend : P.AppendsOnly)
    (h : base.Owes outbox (.write msg :: commands) s) :
    (outboundFrame msg s).Holds (fun _ => base.Owes outbox commands) fun _ => base.Watched := by
  let p : Processed P := ⟨s.pipeline.outbound, s.pipeline.codec, s.writeBuf, msg⟩
  have hbytes : s.stream.sent ++ p.run.final.2.2 = frames (s.history.processed ++ [p]) := by
    rw [p.final_buffer happend, ← List.append_assoc, h.bytes, frames_append]
    exact congrArg _ (List.append_nil _).symm
  have horder : s.history.accepted =
      (s.history.processed ++ [p]).map (·.msg) ++ messages commands := by
    rw [h.order, List.map_append, List.append_assoc]
    rfl
  have hgrows : Grows s (s.processing msg) :=
    ⟨List.prefix_rfl, List.prefix_append _ _, List.prefix_rfl⟩
  have hsound := h.sound.mono (List.Subset.refl _) fun _ hn => hn.grows hgrows
  change (EStateM.zoom outboundPart (P.outboundFrame msg) (s.processing msg)).Holds _ _
  unfold EStateM.zoom
  rw [show P.outboundFrame msg (outboundPart.get (s.processing msg)) = p.run from rfl]
  cases hrun : p.run with
  | ok encoded t =>
    rw [hrun] at hbytes
    exact {
      grows := h.grows.trans hgrows
      outbox := h.outbox
      order := horder
      asked := h.asked
      sound := hsound
      answered := h.answered
      numbered := h.numbered
      bytes := hbytes
      encoded := by
        intro q hq
        rcases List.mem_append.1 hq with hq | hq
        · exact h.encoded q hq
        · rw [List.mem_singleton.1 hq]
          exact ⟨encoded, t, hrun⟩ }
  | error e t =>
    refine ⟨h.grows.trans hgrows, ⟨_, horder.symm⟩, hsound, ⟨_, h.answered⟩, h.numbered⟩

theorem encodeOutbound_answers (happend : P.AppendsOnly)
    (h : base.Owes outbox (.write msg :: commands) s) :
    (encodeOutbound msg s).Holds (fun _ => base.Owes outbox commands) fun _ => base.Watched :=
  encodeOutbound_holds (fun _ ht => { ht with }) (outboundFrame_answers happend h)

theorem processOutbound_answers (happend : P.AppendsOnly)
    (h : base.Owes outbox (.write msg :: commands) s) :
    (processOutbound msg s).Holds (fun _ => base.Owes outbox commands) fun _ => base.Watched :=
  processOutbound_holds (outboundFrame_answers happend h)

/-- A `write_all` hands something to the socket, all of it if it succeeds. -/
theorem writeAll_holds (src : Bytes) (stream : TcpStream) :
    (TcpStream.writeAll src stream).Holds (fun _ t => t.sent = stream.sent ++ src)
      fun _ t => stream.sent <+: t.sent := by
  unfold TcpStream.writeAll
  split
  next => exact rfl
  next => exact rfl
  next => exact List.prefix_append _ _

theorem flushWriteBuf_answers (h : base.Owes outbox commands s) :
    (flushWriteBuf s).Holds (fun _ t => base.Owes outbox commands t ∧ t.writeBuf = [])
      fun _ t => base.Watched t ∧ t.ctx = s.ctx := by
  rw [flushWriteBuf, get_bind]
  by_cases hempty : s.writeBuf = []
  · rw [if_neg (not_not.2 hempty)]
    exact ⟨h, hempty⟩
  · rw [if_pos hempty]
    have hwrite := writeAll_holds s.writeBuf s.stream
    cases hx : TcpStream.writeAll s.writeBuf s.stream with
    | ok _ stream =>
      rw [hx] at hwrite
      have hsent : stream.sent = s.stream.sent ++ s.writeBuf := hwrite
      have hgrows : s.stream.sent <+: stream.sent := hsent ▸ List.prefix_append _ _
      rw [bind_of_ok (zoom_of_ok (c := streamPart) hx)]
      refine ⟨⟨h.grows.trans ⟨List.prefix_rfl, List.prefix_rfl, hgrows⟩, h.outbox, h.order, h.asked,
        ?_, h.answered, h.numbered, ?_, h.encoded⟩, rfl⟩
      · exact h.sound.mono (List.Subset.refl _) fun _ hn =>
          hn.grows ⟨List.prefix_rfl, List.prefix_rfl, hgrows⟩
      · exact (List.append_nil _).trans (hsent.trans h.bytes)
    | error e stream =>
      rw [hx] at hwrite
      have hgrows : s.stream.sent <+: stream.sent := hwrite
      rw [bind_of_error (zoom_of_error (c := streamPart) hx)]
      refine ⟨⟨h.grows.trans ⟨List.prefix_rfl, List.prefix_rfl, hgrows⟩, ⟨_, h.order.symm⟩,
        ?_, ⟨_, h.answered⟩, h.numbered⟩, rfl⟩
      exact h.sound.mono (List.Subset.refl _) fun _ hn =>
        hn.grows ⟨List.prefix_rfl, List.prefix_rfl, hgrows⟩

/-! ## Draining the outbox -/

/-- While a handler runs, the commands of its outbox wait. -/
def Waits (base s : StreamState P) : Prop := base.Owes s.ctx.outbox s.ctx.outbox s

/-- The first of the commands is a flush that has not been answered. -/
def Unanswered (done : Sender) (s : StreamState P) : Prop :=
  s.ctx.acks.map (·.1) ++ [done] <+: List.range s.ctx.flushes

/-- The answer to a flush that failed. -/
theorem Watched.refuse (h : base.Watched s) (hdone : s.Unanswered done) (err : Error) :
    base.Watched { s with ctx := s.ctx.send done (.error err) } := by
  refine ⟨h.1, h.2.order, ?_, ?_, h.2.numbered⟩
  · exact h.2.sound.concat fun hack => by cases hack
  · have hmap : (s.ctx.send done (.error err)).acks.map (·.1) = s.ctx.acks.map (·.1) ++ [done] :=
      List.map_append
    exact hmap ▸ hdone

/-- The answer to a flush that succeeded. -/
theorem Owes.answer (h : base.Owes outbox (.flush done :: commands) s) (hempty : s.writeBuf = []) :
    base.Owes outbox commands { s with ctx := s.ctx.send done (.ok ()) } := by
  obtain ⟨⟨n, hn, hlength⟩, hasked⟩ := h.asked
  refine ⟨h.grows, h.outbox, h.order, hasked, ?_, ?_, h.numbered, h.bytes, h.encoded⟩
  · exact h.sound.concat fun _ => ⟨n, hn, h.covers hempty hlength.le⟩
  · have := h.answered
    rw [flushes_flush] at this
    simpa [Context.send] using this

theorem Owes.unanswered (h : base.Owes outbox (.flush done :: commands) s) : s.Unanswered done :=
  ⟨flushes commands, by rw [List.append_assoc]; exact h.answered⟩

theorem drainCommands_answers (happend : P.AppendsOnly)
    (outbox commands : List (StreamOutboxCommand P.Write)) :
    Answers base (base.Owes outbox commands) (drainCommands commands)
      fun _ => base.Owes outbox [] := by
  apply drainCommands_triple (J := base.Owes outbox)
  · intro msg commands
    exact await_triple_of_holds (fun _ _ => Owes.watched) (fun _ => id) fun s hs =>
      encodeOutbound_answers happend hs
  · intro done commands s hs
    refine (flushWriteBuf_answers hs).mono ?_ ?_
    · rintro _ t ⟨ht, hempty⟩
      exact ⟨ht.watched, (ht.answer hempty).watched, ht.answer hempty⟩
    · rintro _ t ⟨ht, hctx⟩
      have hdone : t.Unanswered done := by
        rw [Unanswered, hctx]
        exact hs.unanswered
      exact ⟨ht, ht, fun err => ⟨ht.refuse hdone err, ht.refuse hdone err⟩⟩

theorem takeCommands_answers :
    Answers base (Waits base) (await (EStateM.zoom (ctxPart (P := P)) Context.takeCommands))
      fun commands => base.Owes [] commands := by
  refine await_triple_of_holds (fun _ _ => Owes.watched) (fun _ => id) ?_
  exact fun s hs => ⟨hs.grows, rfl, hs.order, hs.asked, hs.sound, hs.answered, hs.numbered, hs.bytes,
    hs.encoded⟩

theorem flushWriteBuf_keepsAnswers :
    Answers base (base.Owes outbox commands) (await (flushWriteBuf (P := P)))
      fun _ s => base.Owes outbox commands s ∧ s.writeBuf = [] :=
  await_triple_of_holds (fun _ _ hs => hs.1.watched) (fun _ => id) fun _ hs =>
    (flushWriteBuf_answers hs).mono (fun _ _ ht => ht) fun _ _ ht => ht.1

theorem drainStreamOutbox_answers (happend : P.AppendsOnly) (flushAtEnd : Bool) :
    Answers base (Waits base) (drainStreamOutbox (P := P) flushAtEnd)
      fun _ => base.Owes [] [] := by
  refine Triple.bind takeCommands_answers fun commands => ?_
  refine Triple.bind (drainCommands_answers happend [] commands) fun _ => ?_
  cases flushAtEnd with
  | false => exact Triple.pure fun s hs => hs
  | true => exact flushWriteBuf_keepsAnswers.mono (fun _ hs => hs) (fun _ _ hs => hs.1) fun _ _ hs => hs

/-! ## One inbound message -/

theorem Owes.waits (h : base.Owes [] [] s) : base.Waits s := by
  rw [Waits, h.outbox]
  exact h

theorem Waits.pushWrite (h : base.Waits s) (msg : P.Write) : base.Waits (s.pushWrite msg) := by
  have hgrows : Grows s (s.pushWrite msg) :=
    ⟨List.prefix_append _ _, List.prefix_rfl, List.prefix_rfl⟩
  refine ⟨h.grows.trans hgrows, rfl, ?_, ?_, ?_, ?_, h.numbered, h.bytes, h.encoded⟩
  · change s.history.accepted ++ [msg] = _ ++ messages (s.ctx.outbox ++ [.write msg])
    rw [h.order, messages_append, List.append_assoc]
    rfl
  · change Asked s.ctx.asked (s.history.accepted ++ [msg]).length (s.ctx.outbox ++ [.write msg])
    rw [List.length_append]
    exact h.asked.pushWrite msg
  · exact h.sound.mono (List.Subset.refl _) fun _ hn => hn.grows hgrows
  · change s.ctx.acks.map (·.1) ++ flushes (s.ctx.outbox ++ [.write msg]) = _
    rw [flushes_append, flushes_write, flushes_nil, List.append_nil]
    exact h.answered

theorem pushFlush_answers :
    Answers (P := P) base (Waits base) (await pushFlush) fun _ => Waits base := by
  refine await_triple_of_holds (fun _ _ => Owes.watched) (fun _ => id) ?_
  intro s hs
  refine ⟨hs.grows, rfl, ?_, hs.asked.pushFlush _, ?_, ?_, ?_, hs.bytes, hs.encoded⟩
  · change s.history.accepted = _ ++ messages (s.ctx.outbox ++ [.flush s.ctx.flushes])
    rw [hs.order, messages_append, messages_flush, messages_nil, List.append_nil]
    rfl
  · exact hs.sound.mono (List.subset_append_left _ _) fun _ hn => hn
  · change s.ctx.acks.map (·.1) ++ flushes (s.ctx.outbox ++ [.flush s.ctx.flushes]) =
      List.range (s.ctx.flushes + 1)
    rw [flushes_append, flushes_flush, flushes_nil, ← List.append_assoc, hs.answered,
      List.range_succ]
  · have hrange := congrArg (· ++ [s.ctx.flushes]) hs.numbered
    exact List.map_append.trans (hrange.trans List.range_succ.symm)

theorem runHandler_answers (happend : P.AppendsOnly) (msg : P.CurrentIn) :
    Answers base (base.Owes [] []) (runHandler msg) fun _ => base.Owes [] [] := by
  apply runHandler_triple (S := Waits base)
  · exact fun s hs => Owes.watched hs
  · exact fun _ s hs => hs.watched
  · exact fun s hs => hs.waits
  · intro future
    apply handlerRuntime.pollHandler_triple
    · exact fun s hs => Owes.watched hs
    · exact fun msg s hs => Waits.pushWrite hs msg
    · exact pushFlush_answers
    · exact fun s hs => { hs with }
    · exact (drainStreamOutbox_answers happend false).mono (fun s hs => hs)
        (fun _ s hs => Owes.waits hs) fun _ s hs => hs
    · exact fun s hs => Owes.watched hs
    · exact fun s hs => Owes.watched hs
  · exact fun _ s hs => { hs with }
  · exact drainStreamOutbox_answers happend true

/-- The inbound and business stages do not write. -/
theorem processInboundFlushable_answers (happend : P.AppendsOnly) (msg : P.Item) :
    Answers base (base.Owes [] []) (processInboundFlushable msg) fun _ => base.Owes [] [] := by
  refine processInboundFlushable_triple (fun _ => Owes.watched) (fun _ _ => Owes.watched) ?_ ?_ ?_
    (runHandler_answers happend)
  · exact fun s hs => { hs with }
  · exact fun t s hs => { hs with }
  · exact fun t s hs => { hs with }

end StreamState

/-! ## The connection task -/

/-- The message a command brings. -/
def StreamCommand.msg? {W : Type} : StreamCommand W → Option W
  | .write msg | .writeAndFlush msg _ => some msg
  | .close => none

/-- The message an event brings. -/
def Event.msg? {W : Type} : Event W → Option W
  | .command (some cmd) => cmd.msg?
  | _ => none

/-- The sender that is to hear of it. -/
def Event.done? {W : Type} : Event W → Option Sender
  | .command (some cmd) => cmd.done?
  | _ => none

namespace StreamConnectionRuntime
open StreamState

/-- What an observer of the task may rely on. -/
structure Acked (rt : StreamConnectionRuntime P) : Prop where
  io : rt.io.Acked
  sound : rt.acks.Sound rt.asked (Covers · rt.io)
  inOrder : rt.acks.map (·.1) <+: rt.asked.map (·.1)

/-- The task is back at its `select!`. -/
structure Rests (rt : StreamConnectionRuntime P) : Prop where
  io : rt.io.Owes [] [] rt.io
  sound : rt.acks.Sound rt.asked (Covers · rt.io)
  answered : rt.acks.map (·.1) = rt.asked.map (·.1)

/-- The task has only asked on behalf of the command. -/
def asking (event : Event P.Write) (rt : StreamConnectionRuntime P) : StreamConnectionRuntime P :=
  { rt with asked := rt.asked ++
      event.done?.toList.map fun done => (done, rt.io.history.accepted.length + 1) }

/-- What a turn of the loop leaves behind. -/
structure Turned (event : Event P.Write) (rt t : StreamConnectionRuntime P) : Prop where
  grows : Grows rt.io t.io
  accepted : rt.io.history.accepted ++ event.msg?.toList <+: t.io.history.accepted
  asked : t.asked = (asking event rt).asked
  acks : rt.acks <+: t.acks

/-- What is seen during a turn. -/
def Turning (event : Event P.Write) (rt t : StreamConnectionRuntime P) : Prop :=
  t.Acked ∧ (t = asking event rt ∨ Turned event rt t)

/-- The acknowledgements are those of `base`, and the rest is as `Q` says. -/
structure Beside (base : StreamConnectionRuntime P) (Q : StreamState P → Prop)
    (t : StreamConnectionRuntime P) : Prop where
  acks : t.acks = base.acks
  asked : t.asked = base.asked
  io : Q t.io

variable {rt base t : StreamConnectionRuntime P} {s : StreamState P}

theorem Rests.acked (h : rt.Rests) : rt.Acked :=
  ⟨h.io.watched.2, h.sound, h.answered ▸ List.prefix_rfl⟩

/-- The acknowledgements of an earlier state stay sound. -/
theorem Beside.acked (hbase : base.Acked) (hs : Grows base.io s) (h : base.Beside s.Watched t) :
    t.Acked := by
  obtain ⟨hacks, hasked, hgrows, hio⟩ := h
  refine ⟨hio, ?_, ?_⟩
  · rw [hacks, hasked]
    exact hbase.sound.mono (List.Subset.refl _) fun _ hn => hn.grows (hs.trans hgrows)
  · rw [hacks, hasked]
    exact hbase.inOrder

theorem Beside.rests (hbase : base.Rests) (hs : Grows base.io s)
    (h : base.Beside (s.Owes [] []) t) : t.Rests := by
  obtain ⟨hacks, hasked, hio⟩ := h
  have hacked := Beside.acked hbase.acked hs ⟨hacks, hasked, hio.watched⟩
  refine ⟨?_, hacked.sound, ?_⟩
  · exact { hio with grows := Grows.refl _ }
  · rw [hacks, hasked]
    exact hbase.answered

/-! ### Parts of a turn -/

/-- A part of a turn during which no sender of a command asks or is answered. -/
abbrev Passes {α : Type} (base : StreamConnectionRuntime P) (s : StreamState P)
    (P₀ : StreamState P → Prop) (x : Task P α) (Q : α → StreamState P → Prop) : Prop :=
  Triple (base.Beside s.Watched) (base.Beside P₀) x (fun a => base.Beside (Q a))
    fun _ => base.Beside s.Watched

theorem onIo_passes {α : Type} {failure : Error → ConnectionFailure}
    {x : Traced (Exit Error) (StreamState P) α} {P₀ : StreamState P → Prop}
    {Q : α → StreamState P → Prop} (h : Answers s P₀ x Q) : Passes base s P₀ (onIo failure x) Q := by
  have hmapped : Triple s.Watched P₀ (mapError (Exit.map failure) x) Q fun _ => s.Watched :=
    Triple.mapError h
  apply Triple.zoom
  intro rt hrt
  have hwatched (u : StreamState P) (hu : s.Watched u) :
      base.Beside s.Watched (ioPart.set u rt) := ⟨hrt.acks, hrt.asked, hu⟩
  refine (hmapped.watch hwatched).mono ?_ ?_ ?_
  · exact fun u hu => hu ▸ hrt.io
  · exact fun a u hu => ⟨hrt.acks, hrt.asked, hu⟩
  · exact fun _ u hu => ⟨hrt.acks, hrt.asked, hu⟩

theorem modify_passes {f : StreamConnectionRuntime P → StreamConnectionRuntime P}
    {P₀ Q : StreamState P → Prop} (hQ : ∀ u, Q u → s.Watched u)
    (h : ∀ t, base.Beside P₀ t → base.Beside Q (f t)) :
    Passes base s P₀ (step (modify f)) fun _ => Q :=
  Triple.step fun t ht =>
    have hft := h t ht
    ⟨⟨hft.acks, hft.asked, hQ _ hft.io⟩, hft⟩

theorem unread_owes :
    Unread (P := P) (base.Beside s.Watched) (base.Beside (s.Owes [] []))
      fun _ => base.Beside s.Watched where
  watched _ ht := ⟨ht.acks, ht.asked, ht.io.watched⟩
  failed _ _ ht := ⟨ht.acks, ht.asked, ht.io.watched⟩
  decoded _ _ ht := ⟨ht.acks, ht.asked, { ht.io with }⟩
  read _ _ _ ht := ⟨ht.acks, ht.asked, ht.io⟩

/-- A message of the command queue, with which the first step of the turn begins. -/
theorem writeMessage_passes (happend : P.AppendsOnly) (msg : P.Write) :
    Passes base s (fun u => s.Owes [] [.write msg] (u.accept msg)) (writeMessage msg)
      fun _ u => s.Owes [] [] u ∧ u.writeBuf = [] := by
  apply Triple.bind (Q := fun _ => base.Beside (s.Owes [] [.write msg]))
  · exact modify_passes (fun _ => Owes.watched) fun t ht => ⟨ht.acks, ht.asked, ht.io⟩
  intro _
  apply Triple.bind (Q := fun _ => base.Beside (s.Owes [] []))
  · exact onIo_passes (await_triple_of_holds (fun _ _ => Owes.watched) (fun _ => id) fun u hu =>
      processOutbound_answers happend hu)
  intro _
  apply Triple.bind (Q := fun _ => base.Beside (s.Owes [] []))
  · exact modify_passes (fun _ => Owes.watched) fun t ht => ⟨ht.acks, ht.asked, { ht.io with }⟩
  · exact fun _ => onIo_passes flushWriteBuf_keepsAnswers

/-! ### A turn -/

variable {event : Event P.Write}

theorem Rests.asking (h : rt.Rests) (event : Event P.Write) : (asking event rt).Acked := by
  refine ⟨h.io.watched.2, ?_, ?_⟩
  · exact h.sound.mono (List.subset_append_left _ _) fun _ hn => hn
  · refine h.answered ▸ ⟨_, List.map_append.symm⟩

/-- The turn of an event in its own words. -/
abbrev Turns (event : Event P.Write) (rt : StreamConnectionRuntime P)
    (x : Task P (Option CloseReason)) : Prop :=
  Triple (Turning event rt) (· = rt) x (fun _ t => t.Rests ∧ Turned event rt t)
    fun _ t => t.Acked ∧ Turned event rt t

theorem Beside.turned (hs : Grows rt.io s)
    (haccepted : rt.io.history.accepted ++ event.msg?.toList <+: s.history.accepted)
    (h : (StreamConnectionRuntime.asking event rt).Beside s.Watched t) : Turned event rt t :=
  ⟨hs.trans h.io.1, haccepted.trans h.io.1.1, h.asked, h.acks ▸ List.prefix_rfl⟩

/-- An event that brings no command. -/
theorem turns_of_passes (hrt : rt.Rests) {x : Task P (Option CloseReason)}
    (hmsg : event.msg? = none) (hdone : event.done? = none)
    (h : Passes rt rt.io (rt.io.Owes [] []) x fun _ => rt.io.Owes [] []) : Turns event rt x := by
  have hasking : StreamConnectionRuntime.asking event rt = rt := by
    simp [StreamConnectionRuntime.asking, hdone]
  have haccepted : rt.io.history.accepted ++ event.msg?.toList <+: rt.io.history.accepted := by
    rw [hmsg, Option.toList_none, List.append_nil]
  have hturned {t : StreamConnectionRuntime P} (ht : rt.Beside rt.io.Watched t) :
      Turned event rt t :=
    Beside.turned (Grows.refl _) haccepted (hasking.symm ▸ ht)
  have hwatched {t : StreamConnectionRuntime P} (ht : rt.Beside rt.io.Watched t) :
      t.Acked ∧ Turned event rt t := ⟨ht.acked hrt.acked (Grows.refl _), hturned ht⟩
  refine (h.watch fun t ht => ⟨(hwatched ht).1, .inr (hwatched ht).2⟩).mono ?_ ?_ ?_
  · rintro t rfl
    exact ⟨rfl, rfl, hrt.io⟩
  · exact fun _ t ht => ⟨ht.rests hrt (Grows.refl _), hturned ⟨ht.acks, ht.asked, ht.io.watched⟩⟩
  · exact fun _ t ht => hwatched ht

theorem grows_accept (s : StreamState P) (msg : P.Write) : Grows s (s.accept msg) :=
  ⟨List.prefix_append _ _, List.prefix_rfl, List.prefix_rfl⟩

/-- The message of a command waits to be encoded. -/
theorem Rests.accept (h : rt.Rests) (msg : P.Write) :
    (rt.io.accept msg).Owes [] [.write msg] (rt.io.accept msg) := by
  refine ⟨Grows.refl _, h.io.outbox, ?_, trivial, ?_, h.io.answered, h.io.numbered, h.io.bytes,
    h.io.encoded⟩
  · change rt.io.history.accepted ++ [msg] = _ ++ messages [.write msg]
    rw [h.io.order, messages_nil, List.append_nil]
    rfl
  · exact h.io.sound.mono (List.Subset.refl _) fun _ hn => hn.grows (grows_accept _ _)

section
variable {msg : P.Write}

theorem Beside.acked_of_accept (hrt : rt.Rests) (hmsg : event.msg? = some msg)
    (h : (StreamConnectionRuntime.asking event rt).Beside (rt.io.accept msg).Watched t) :
    t.Acked ∧ Turned event rt t := by
  refine ⟨h.acked (hrt.asking event) (grows_accept rt.io msg), h.turned (grows_accept rt.io msg) ?_⟩
  rw [hmsg]
  exact List.prefix_rfl

/-- The message of a command, once its sender has asked. -/
theorem writeMessage_turns (happend : P.AppendsOnly) (hrt : rt.Rests) (hmsg : event.msg? = some msg) :
    Triple (Turning event rt) (· = asking event rt) (writeMessage msg)
      (fun _ => (asking event rt).Beside fun u =>
        (rt.io.accept msg).Owes [] [] u ∧ u.writeBuf = [])
      fun _ => (asking event rt).Beside (rt.io.accept msg).Watched := by
  have hpasses : Passes (asking event rt) (rt.io.accept msg) _ (writeMessage msg) _ :=
    writeMessage_passes happend msg
  refine (hpasses.watch fun t ht => ?_).pre ?_
  · have hacked := Beside.acked_of_accept hrt hmsg ht
    exact ⟨hacked.1, .inr hacked.2⟩
  · rintro t rfl
    exact ⟨rfl, rfl, hrt.accept msg⟩

/-- The acknowledgement of a command is the last step of its turn. -/
theorem Beside.answer (hrt : rt.Rests) (hmsg : event.msg? = some msg) {done : Sender}
    (hdone : event.done? = some done) (ack : Except Error Unit)
    (hwatched : (StreamConnectionRuntime.asking event rt).Beside (rt.io.accept msg).Watched t)
    (hok : ack = .ok () → (rt.io.accept msg).Owes [] [] t.io ∧ t.io.writeBuf = []) :
    let t' := t.answer done ack
    (ack = .ok () → t'.Rests) ∧ t'.Acked ∧ Turned event rt t' := by
  intro t'
  obtain ⟨hacked, hturned⟩ := Beside.acked_of_accept hrt hmsg hwatched
  have hasked : t.asked = rt.asked ++ [(done, rt.io.history.accepted.length + 1)] := by
    rw [hwatched.asked, StreamConnectionRuntime.asking, hdone]
    rfl
  have hlength : rt.io.history.accepted.length + 1 ≤ t.io.history.accepted.length := by
    have := hturned.accepted.length_le
    rwa [hmsg, List.length_append] at this
  have hsound : t'.acks.Sound t'.asked (Covers · t'.io) := by
    refine hacked.sound.concat fun hack => ⟨rt.io.history.accepted.length + 1, ?_, ?_⟩
    · rw [hasked]
      exact List.mem_append_right _ (.head _)
    · exact (hok hack).1.covers (hok hack).2 hlength
  have hanswered : t'.acks.map (·.1) = t'.asked.map (·.1) := by
    change (t.acks ++ [(done, ack)]).map (·.1) = t.asked.map (·.1)
    rw [hasked, hwatched.acks, List.map_append, List.map_append]
    exact congrArg (· ++ [done]) hrt.answered
  refine ⟨fun hack => ⟨?_, hsound, hanswered⟩, ⟨hacked.io, hsound, hanswered ▸ List.prefix_rfl⟩,
    hturned.grows, hturned.accepted, hturned.asked, hturned.acks.trans (List.prefix_append _ _)⟩
  exact { (hok hack).1 with grows := Grows.refl _ }

end

theorem write_turns (happend : P.AppendsOnly) (env : Surroundings) (msg : P.Write)
    (hrt : rt.Rests) :
    Turns (.command (some (.write msg))) rt (handleCommand env (some (.write msg))) := by
  let event : Event P.Write := .command (some (.write msg))
  have hmsg : event.msg? = some msg := rfl
  have hasking : asking event rt = rt := by simp [asking, event, Event.done?, StreamCommand.done?]
  apply Triple.bind (Q := fun _ t => t.Rests ∧ Turned event rt t)
  · refine (writeMessage_turns happend hrt hmsg).mono ?_ ?_ ?_
    · exact fun t ht => ht.trans hasking.symm
    · intro _ t ht
      have hwatched := Beside.acked_of_accept hrt hmsg ⟨ht.acks, ht.asked, ht.io.1.watched⟩
      rw [hasking] at ht
      exact ⟨Beside.rests hrt (grows_accept rt.io msg) ⟨ht.acks, ht.asked, ht.io.1⟩, hwatched.2⟩
    · exact fun _ t ht => Beside.acked_of_accept hrt hmsg ht
  · exact fun _ => Triple.pure fun t ht => ht

theorem writeAndFlush_turns (happend : P.AppendsOnly) (env : Surroundings) (msg : P.Write)
    (done : Sender) (hrt : rt.Rests) :
    Turns (.command (some (.writeAndFlush msg done))) rt
      (handleCommand env (some (.writeAndFlush msg done))) := by
  let event : Event P.Write := .command (some (.writeAndFlush msg done))
  have hmsg : event.msg? = some msg := rfl
  have hdone : event.done? = some done := rfl
  have hask : Triple (Turning event rt) (· = rt) (ask done) (fun _ => (· = asking event rt))
      fun _ t => t.Acked ∧ Turned event rt t := by
    refine Triple.step fun t ht => ?_
    subst ht
    exact ⟨⟨hrt.asking event, .inl rfl⟩, rfl⟩
  refine writeAndFlush_triple hask (writeMessage_turns happend hrt hmsg) ?_ ?_ ?_ ?_ env
  · intro t ht
    have hwatched : (asking event rt).Beside (rt.io.accept msg).Watched t :=
      ⟨ht.acks, ht.asked, ht.io.1.watched⟩
    have hanswer := Beside.answer hrt hmsg hdone (.ok ()) hwatched fun _ => ht.io
    exact ⟨⟨hanswer.2.1, .inr hanswer.2.2⟩, hanswer.1 rfl, hanswer.2.2⟩
  · intro _ err t ht
    have hanswer := Beside.answer hrt hmsg hdone (.error err) ht nofun
    exact ⟨⟨hanswer.2.1, .inr hanswer.2.2⟩, hanswer.2⟩
  · exact fun t ht => Beside.acked_of_accept hrt hmsg ht
  · exact fun t ht => Beside.acked_of_accept hrt hmsg ht

theorem handleCommand_turns (happend : P.AppendsOnly) (env : Surroundings)
    (cmd : Option (StreamCommand P.Write)) (hrt : rt.Rests) :
    Turns (.command cmd) rt (handleCommand env cmd) := by
  cases cmd with
  | none => exact turns_of_passes hrt rfl rfl (Triple.pure fun t ht => ht)
  | some cmd =>
    cases cmd with
    | close => exact turns_of_passes hrt rfl rfl (Triple.pure fun t ht => ht)
    | write msg => exact write_turns happend env msg hrt
    | writeAndFlush msg done => exact writeAndFlush_turns happend env msg done hrt

theorem select_turns (happend : P.AppendsOnly) (env : Surroundings) (event : Event P.Write)
    (hrt : rt.Rests) : Turns event rt (select env event) := by
  have hmsg (msg : P.Item) :
      Passes rt rt.io (rt.io.Owes [] []) (onIo handlerFailure (processInboundFlushable msg))
        fun _ => rt.io.Owes [] [] :=
    onIo_passes (processInboundFlushable_answers happend msg)
  cases event with
  | command cmd => exact handleCommand_turns happend env cmd hrt
  | read read => exact turns_of_passes hrt rfl rfl (unread_owes.select_triple hmsg env nofun)
  | shutdown => exact turns_of_passes hrt rfl rfl (unread_owes.select_triple hmsg env nofun)
  | idle => exact turns_of_passes hrt rfl rfl (unread_owes.select_triple hmsg env nofun)

theorem new_rests (stream : TcpStream) (pipeline : StreamPipeline P) (config : TcpConnectionConfig)
    (tracked : Bool) (hstream : stream.sent = []) : (new stream pipeline config tracked).Rests := by
  refine ⟨⟨Grows.refl _, rfl, rfl, trivial, .nil, rfl, rfl, ?_, by simp [new]⟩, .nil, rfl⟩
  change stream.sent ++ [] = []
  rw [hstream, List.append_nil]

end StreamConnectionRuntime

/-! ## The channel -/

namespace StreamChannel
open StreamState StreamConnectionRuntime

/-- The messages of the commands. -/
def commandMessages {W : Type} (commands : List (StreamCommand W)) : List W :=
  commands.filterMap (·.msg?)

/-- The senders of the commands. -/
def senders {W : Type} (commands : List (StreamCommand W)) : List Sender :=
  commands.filterMap (·.done?)

/-- The encodings of all that was processed up to the last of these messages are on the socket. -/
def Handed (msgs : List P.Write) (s : StreamState P) : Prop :=
  ∃ ps, ps <+: s.history.processed ∧ (∀ p ∈ ps, p.Accepted) ∧ frames ps <+: s.stream.sent ∧
    msgs.Sublist (ps.map (·.msg))

/-- What holds of the acknowledgements whenever one is looked at: an `Ok` for a flush covers what
the handler had staged before it, an `Ok` for a command its message and those of the commands queued
before it. Nothing is answered twice. -/
structure AcksSound (queued : List (StreamCommand P.Write)) (rt : StreamConnectionRuntime P) :
    Prop where
  flushes : rt.io.ctx.acks.Sound rt.io.ctx.asked fun n =>
    Handed (rt.io.history.accepted.take n) rt.io
  flushesAsked : (rt.io.ctx.asked.map (·.1)).Nodup
  flushesOnce : (rt.io.ctx.acks.map (·.1)).Nodup
  commands : ∀ before msg done after, queued = before ++ .writeAndFlush msg done :: after →
    (done, .ok ()) ∈ rt.acks → Handed (commandMessages before ++ [msg]) rt.io
  commandsAsked : rt.acks.map (·.1) ⊆ senders queued
  commandsOnce : (rt.acks.map (·.1)).Nodup

/-- The commands received so far are those whose senders have asked, and their messages are among
the accepted ones. -/
structure Heard (received : List (StreamCommand P.Write)) (rt : StreamConnectionRuntime P) :
    Prop where
  asked : rt.asked.map (·.1) = senders received
  accepted : (commandMessages received).Sublist rt.io.history.accepted
  before : ∀ before msg done after, received = before ++ .writeAndFlush msg done :: after →
    ∃ n, (done, n) ∈ rt.asked ∧
      (commandMessages before ++ [msg]).Sublist (rt.io.history.accepted.take n)

/-- The commands that were queued are those received and those in the queue, until the queue is
dropped. -/
structure Tracked (received : List (StreamCommand P.Write)) (s : StreamChannel P) : Prop where
  acked : s.rt.Acked
  rests : s.status.isRunning = true → s.rt.Rests
  heard : Heard received s.rt
  queued : received <+: s.queued
  waiting : s.status.isOver = false → s.queued = received ++ s.queue
  numbered : (senders s.queued).Sublist (List.range s.next)
  all : s.status.isOver = false → senders s.queued = List.range s.next

variable {rt t : StreamConnectionRuntime P} {queued received : List (StreamCommand P.Write)}

theorem handed_of_covers {s : StreamState P} (hs : s.Acked) {n : Nat} (h : s.Covers n)
    {msgs : List P.Write} (hmsgs : msgs.Sublist (s.history.accepted.take n)) : Handed msgs s := by
  obtain ⟨ps, hps, hn, hencoded, hframes⟩ := h
  refine ⟨ps, hps, hencoded, hframes, hmsgs.trans ?_⟩
  have hprefix : ps.map (·.msg) <+: s.history.accepted := (hps.map _).trans hs.order
  obtain ⟨rest, hrest⟩ := hprefix
  rw [← hrest, List.take_append_of_le_length (by rwa [List.length_map])]
  exact (List.take_prefix _ _).sublist

/-- A sender is heard of where its command is. -/
theorem eq_of_mem_senders {before after : List (StreamCommand P.Write)} {msg : P.Write}
    {done : Sender} (hqueued : queued = before ++ .writeAndFlush msg done :: after)
    (hreceived : received <+: queued) (hnodup : (senders queued).Nodup)
    (hdone : done ∈ senders received) :
    ∃ rest, received = before ++ .writeAndFlush msg done :: rest := by
  obtain ⟨dropped, rfl⟩ := hreceived
  have hdropped : done ∉ senders dropped := fun h => by
    rw [senders, List.filterMap_append, List.nodup_append] at hnodup
    exact hnodup.2.2 done hdone done h rfl
  have hmem (rest : List (StreamCommand P.Write)) :
      done ∈ senders (rest ++ .writeAndFlush msg done :: after) :=
    List.mem_filterMap.2 ⟨.writeAndFlush msg done, by simp, rfl⟩
  rcases List.append_eq_append_iff.1 hqueued with ⟨rest, -, hrest⟩ | ⟨rest, rfl, hrest⟩
  · exact (hdropped (hrest ▸ hmem rest)).elim
  · cases rest with
    | nil =>
      rw [List.nil_append] at hrest
      exact (hdropped (hrest ▸ .head _)).elim
    | cons command rest =>
      obtain ⟨rfl, -⟩ := List.cons.inj hrest
      exact ⟨rest, rfl⟩

/-- Acknowledgements are sound for as long as the task keeps its account. -/
theorem Heard.acksSound (h : Heard received rt) (hacked : rt.Acked) (hreceived : received <+: queued)
    (hnodup : (senders queued).Nodup) : AcksSound queued rt := by
  have hasked : (rt.asked.map (·.1)).Nodup := by
    rw [h.asked]
    exact hnodup.sublist (hreceived.sublist.filterMap _)
  refine ⟨?_, ?_, ?_, ?_, ?_, ?_⟩
  · intro done hdone
    obtain ⟨n, hn, hcovers⟩ := hacked.io.sound done hdone
    exact ⟨n, hn, handed_of_covers hacked.io hcovers (List.Sublist.refl _)⟩
  · exact hacked.io.numbered ▸ List.nodup_range
  · exact List.nodup_range.sublist hacked.io.once.sublist
  · intro before msg done after hqueued hdone
    obtain ⟨n, hn, hcovers⟩ := hacked.sound done hdone
    have hmem : done ∈ senders received := h.asked ▸ List.mem_map_of_mem hn
    obtain ⟨rest, hrest⟩ := eq_of_mem_senders hqueued hreceived hnodup hmem
    obtain ⟨m, hm, hsub⟩ := h.before before msg done rest hrest
    have hnm : (done, n) = (done, m) := List.inj_on_of_nodup_map hasked hn hm rfl
    cases hnm
    exact handed_of_covers hacked.io hcovers hsub
  · refine List.Subset.trans hacked.inOrder.subset ?_
    exact h.asked ▸ (hreceived.sublist.filterMap _).subset
  · exact hasked.sublist hacked.inOrder.sublist

/-- What is acknowledged depends on nothing else. -/
theorem AcksSound.congr (h : AcksSound queued rt) (hio : t.io = rt.io) (hacks : t.acks = rt.acks) :
    AcksSound queued t := by
  obtain ⟨hflushes, hasked, honce, hcommands, hcommandsAsked, hcommandsOnce⟩ := h
  exact ⟨hio ▸ hflushes, hio ▸ hasked, hio ▸ honce, hacks ▸ hio ▸ hcommands, hacks ▸ hcommandsAsked,
    hacks ▸ hcommandsOnce⟩

/-- The command that an event takes off the queue. -/
def commandsOf {W : Type} : Event W → List (StreamCommand W)
  | .command cmd => cmd.toList
  | _ => []

theorem length_commandsOf (event : Event P.Write) : (commandsOf event).length ≤ 1 := by
  cases event with
  | command cmd => cases cmd <;> simp [commandsOf]
  | _ => exact Nat.zero_le _

theorem commandMessages_commandsOf (event : Event P.Write) :
    commandMessages (commandsOf event) = event.msg?.toList := by
  cases event with
  | command cmd =>
    cases cmd with
    | none => rfl
    | some cmd => cases cmd <;> rfl
  | _ => rfl

theorem senders_commandsOf (event : Event P.Write) :
    senders (commandsOf event) = event.done?.toList := by
  cases event with
  | command cmd =>
    cases cmd with
    | none => rfl
    | some cmd => cases cmd <;> rfl
  | _ => rfl

/-- After a turn its command has been heard. -/
theorem Heard.turned (h : Heard received rt) {event : Event P.Write} (ht : Turned event rt t) :
    Heard (received ++ commandsOf event) t := by
  have htake {msgs : List P.Write} {n : Nat}
      (hmsgs : msgs.Sublist (rt.io.history.accepted.take n)) :
      msgs.Sublist (t.io.history.accepted.take n) :=
    hmsgs.trans (List.IsPrefix.take ht.grows.1 n).sublist
  refine ⟨?_, ?_, ?_⟩
  · rw [ht.asked, asking, senders, List.filterMap_append, List.map_append, h.asked]
    refine congrArg (_ ++ ·) ?_
    rw [← senders, senders_commandsOf]
    cases event.done? <;> rfl
  · rw [commandMessages, List.filterMap_append]
    refine (h.accepted.append ?_).trans ht.accepted.sublist
    exact (commandMessages_commandsOf event).symm ▸ List.Sublist.refl _
  · intro before msg done after heq
    -- The last command is that of the turn; the others have been heard before.
    have hnew (hcommands : commandsOf event = .writeAndFlush msg done :: after) :
        ∃ n, (done, n) ∈ t.asked ∧
          (commandMessages received ++ [msg]).Sublist (t.io.history.accepted.take n) := by
      have hdone : event.done?.toList = done :: senders after :=
        (senders_commandsOf event).symm.trans (congrArg senders hcommands)
      have hmsg : event.msg?.toList = msg :: commandMessages after :=
        (commandMessages_commandsOf event).symm.trans (congrArg commandMessages hcommands)
      have hlast : rt.io.history.accepted ++ [msg] <+: t.io.history.accepted := by
        refine List.IsPrefix.trans ?_ ht.accepted
        rw [hmsg]
        exact ⟨_, (List.append_cons _ _ _).symm⟩
      refine ⟨rt.io.history.accepted.length + 1, ?_, ?_⟩
      · rw [ht.asked, asking, hdone]
        exact List.mem_append_right _ (.head _)
      · refine (h.accepted.append (List.Sublist.refl _)).trans (List.IsPrefix.sublist ?_)
        exact List.prefix_take_iff.2 ⟨hlast, by simp⟩
    rcases List.append_eq_append_iff.1 heq with ⟨rest, rfl, hrest⟩ | ⟨rest, rfl, hrest⟩
    · have hlength := length_commandsOf event
      rw [hrest, List.length_append, List.length_cons] at hlength
      obtain rfl : rest = [] := List.eq_nil_of_length_eq_zero (by omega)
      rw [List.append_nil]
      exact hnew hrest
    · cases rest with
      | nil =>
        rw [List.nil_append] at hrest
        rw [List.append_nil] at hnew
        exact hnew hrest.symm
      | cons command rest =>
        obtain ⟨rfl, -⟩ := List.cons.inj hrest
        obtain ⟨n, hn, hsub⟩ := h.before before msg done rest rfl
        exact ⟨n, ht.asked ▸ List.mem_append_left _ hn, htake hsub⟩

/-! ### Runs -/

variable {s u : StreamChannel P} {env : Surroundings}

theorem Tracked.acksSound (h : Tracked received s) : AcksSound s.queued s.rt :=
  h.heard.acksSound h.acked h.queued (List.nodup_range.sublist h.numbered)

theorem event?_queue {action : ChannelAction P} {event : Event P.Write}
    {queue : List (StreamCommand P.Write)} (h : s.event? action = some (event, queue)) :
    s.queue = commandsOf event ++ queue := by
  cases action with
  | recv =>
    rw [event?] at h
    split at h <;> cases h
    next hqueue => exact hqueue
    next hqueue => exact hqueue
  | write | writeAndFlush | close => cases h
  | read | shutdown | idle => cases h; rfl

theorem isOver_of_isRunning {status : TaskStatus} (h : status.isRunning = true) :
    status.isOver = false := by
  cases status with
  | running => rfl
  | _ => cases h

/-- What is acknowledged during a turn is sound, too. -/
theorem Tracked.acksSound_turn (h : Tracked received s) (happend : P.AppendsOnly)
    (hrunning : s.status.isRunning = true) {action : ChannelAction P} {event : Event P.Write}
    {queue : List (StreamCommand P.Write)} (hevent : s.event? action = some (event, queue)) :
    ∀ rt ∈ (select env event).visited s.rt, AcksSound s.queued rt := by
  intro rt hrt
  have hqueued : received ++ commandsOf event <+: s.queued := by
    rw [h.waiting (isOver_of_isRunning hrunning), event?_queue hevent, ← List.append_assoc]
    exact List.prefix_append _ _
  obtain ⟨hacked, rfl | hturned⟩ :=
    (select_turns happend env event (h.rests hrunning) s.rt rfl).1 rt hrt
  · exact h.acksSound.congr rfl rfl
  · exact (h.heard.turned hturned).acksSound hacked hqueued (List.nodup_range.sublist h.numbered)

/-- A turn leaves the task so; it drops the queue if it ends. -/
theorem Tracked.turned (h : Tracked received s) (hover : s.status.isOver = false)
    {event : Event P.Write} {queue left : List (StreamCommand P.Write)}
    (hqueue : s.queue = commandsOf event ++ queue) {status : TaskStatus} (hacked : t.Acked)
    (hrests : status.isRunning = true → t.Rests) (hturned : Turned event s.rt t)
    (hleft : status.isOver = false → left = queue) :
    Tracked (received ++ commandsOf event) { s with rt := t, status, queue := left } := by
  have hwaiting : s.queued = (received ++ commandsOf event) ++ queue := by
    rw [h.waiting hover, hqueue, List.append_assoc]
  exact {
    acked := hacked
    rests := hrests
    heard := h.heard.turned hturned
    queued := ⟨queue, hwaiting.symm⟩
    waiting := fun hopen => (hleft hopen).symm ▸ hwaiting
    numbered := h.numbered
    all := fun _ => h.all hover }

theorem Tracked.turn (h : Tracked received s) (happend : P.AppendsOnly) (env : Surroundings)
    (hrunning : s.status.isRunning = true) {event : Event P.Write}
    {queue : List (StreamCommand P.Write)} (hqueue : s.queue = commandsOf event ++ queue) :
    Tracked (received ++ commandsOf event) (s.turn env event queue) ∧
      s.rt.acks <+: (s.turn env event queue).rt.acks := by
  have hover := isOver_of_isRunning hrunning
  have hresult := (select_turns happend env event (h.rests hrunning) s.rt rfl).2
  rw [StreamChannel.turn]
  split
  next rt heq =>
    rw [heq] at hresult
    obtain ⟨hrests, hturned⟩ := hresult
    exact ⟨h.turned hover hqueue hrests.acked (fun _ => hrests) hturned fun _ => rfl, hturned.acks⟩
  next reason rt heq =>
    rw [heq] at hresult
    obtain ⟨hrests, hturned⟩ := hresult
    exact ⟨h.turned hover hqueue hrests.acked nofun hturned nofun, hturned.acks⟩
  next failure rt heq =>
    rw [heq] at hresult
    obtain ⟨hacked, hturned⟩ := hresult
    exact ⟨h.turned hover hqueue hacked nofun hturned nofun, hturned.acks⟩
  next rt heq =>
    rw [heq] at hresult
    obtain ⟨hacked, hturned⟩ := hresult
    exact ⟨h.turned hover hqueue hacked nofun hturned nofun, hturned.acks⟩
  next rt heq =>
    rw [heq] at hresult
    obtain ⟨hacked, hturned⟩ := hresult
    exact ⟨h.turned hover hqueue hacked nofun hturned fun _ => rfl, hturned.acks⟩

/-- A command without a sender of its own, or with a new one. -/
theorem Tracked.send (h : Tracked received s) {command : StreamCommand P.Write} {next : Sender}
    (hnext : List.range next = List.range s.next ++ command.done?.toList)
    (hsend : { s with next }.send command = some u) :
    Tracked received u ∧ u.rt = s.rt ∧ u.status = s.status ∧ u.next = next := by
  have hsenders : senders (s.queued ++ [command]) = senders s.queued ++ command.done?.toList := by
    rw [senders, List.filterMap_append]
    cases hdone : command.done? <;> simp [senders, hdone]
  rw [StreamChannel.send] at hsend
  split at hsend
  next hover =>
    cases hsend
    have hopen (hnot : s.status.isOver = false) : False := Bool.noConfusion (hnot.symm.trans hover)
    refine ⟨⟨h.acked, h.rests, h.heard, h.queued, h.waiting, ?_, fun hnot => (hopen hnot).elim⟩, rfl,
      rfl, rfl⟩
    change (senders s.queued).Sublist (List.range next)
    rw [hnext]
    exact h.numbered.trans (List.sublist_append_left _ _)
  next hnot =>
    have hopen : s.status.isOver = false := Bool.eq_false_iff.2 hnot
    split at hsend
    next =>
      cases hsend
      have hall : senders (s.queued ++ [command]) = List.range next := by
        rw [hsenders, hnext, h.all hopen]
      refine ⟨⟨h.acked, h.rests, h.heard, h.queued.trans (List.prefix_append _ _), fun _ => ?_, ?_,
        fun _ => hall⟩, rfl, rfl, rfl⟩
      · change s.queued ++ [command] = received ++ (s.queue ++ [command])
        rw [h.waiting hopen, List.append_assoc]
      · exact hall ▸ List.Sublist.refl _
    next => cases hsend

/-- What a step does to the account: it takes no acknowledgement back, and leaves a task that does
not run as it is. -/
structure Stepped (s u : StreamChannel P) : Prop where
  tracked : ∃ received, Tracked received u
  next : s.next ≤ u.next
  acks : s.rt.acks <+: u.rt.acks
  idle : s.status.isRunning = false → u.rt = s.rt ∧ u.status = s.status

theorem Tracked.stepped_send (h : Tracked received s) {command : StreamCommand P.Write}
    {next : Sender} (hle : s.next ≤ next)
    (hnext : List.range next = List.range s.next ++ command.done?.toList)
    (hsend : { s with next }.send command = some u) : Stepped s u := by
  obtain ⟨hu, hrt, hstatus, rfl⟩ := h.send hnext hsend
  exact ⟨⟨received, hu⟩, hle, hrt ▸ List.prefix_rfl, fun _ => ⟨hrt, hstatus⟩⟩

theorem Tracked.stepped_act (h : Tracked received s) (happend : P.AppendsOnly)
    (action : ChannelAction P) (hact : s.act env action = some u) : Stepped s u := by
  rw [act] at hact
  split at hact
  next event queue hevent =>
    split at hact
    next hrunning =>
      cases hact
      obtain ⟨htracked, hacks⟩ := h.turn happend env hrunning (event?_queue hevent)
      refine ⟨⟨_, htracked⟩, ?_, hacks, fun hnot => Bool.noConfusion (hnot.symm.trans hrunning)⟩
      rw [StreamChannel.turn]
      split <;> exact Nat.le_refl _
    next => cases hact
  next => cases hact

theorem Tracked.step (h : Tracked received s) (happend : P.AppendsOnly)
    {action : ChannelAction P} (hstep : StreamChannel.step env s action = some u) :
    Stepped s u := by
  cases action with
  | write msg => exact h.stepped_send (Nat.le_refl _) (List.append_nil _).symm hstep
  | writeAndFlush msg => exact h.stepped_send (Nat.le_succ _) List.range_succ hstep
  | close => exact h.stepped_send (Nat.le_refl _) (List.append_nil _).symm hstep
  | recv => exact h.stepped_act happend .recv hstep
  | read read => exact h.stepped_act happend (.read read) hstep
  | shutdown => exact h.stepped_act happend .shutdown hstep
  | idle => exact h.stepped_act happend .idle hstep

/-- While the task runs, a call that has no answer waits in the queue. -/
theorem Tracked.holds (h : Tracked received s) {done : Sender} (hdone : done < s.next)
    (hover : s.status.isOver = false) (hack : s.rt.acks.lookup done = none) : s.Holds done := by
  unfold Holds
  cases hstatus : s.status with
  | running =>
    have hrests := h.rests (by rw [hstatus]; rfl)
    have hmem : done ∈ senders s.queued := by
      rw [h.all hover]
      exact List.mem_range.2 hdone
    rw [h.waiting hover, senders, List.filterMap_append] at hmem
    rcases List.mem_append.1 hmem with hmem | hmem
    · -- A command that has been received is answered.
      rw [← senders, ← h.heard.asked, ← hrests.answered] at hmem
      obtain ⟨entry, hentry, heq⟩ := List.mem_map.1 hmem
      have := List.lookup_eq_none_iff.1 hack entry hentry
      simp [heq] at this
    · obtain ⟨command, hmem, heq⟩ := List.mem_filterMap.1 hmem
      exact List.mem_map.2 ⟨command, hmem, heq⟩
  | hung => trivial
  | ended | panicked => rw [hstatus] at hover; cases hover

/-- An answer is final. -/
theorem Tracked.answer_step (h : Tracked received s) (happend : P.AppendsOnly)
    {action : ChannelAction P} (hstep : StreamChannel.step env s action = some u) {done : Sender}
    (hdone : done < s.next) {r : Except Error Unit} (hr : s.answer done = some r) :
    u.answer done = some r := by
  have hstepped := h.step happend hstep
  rw [answer] at hr ⊢
  cases hack : s.rt.acks.lookup done with
  | some ack =>
    rw [hack] at hr
    rw [hstepped.acks.lookup_eq_some hack]
    exact hr
  | none =>
    rw [hack] at hr
    have hholds : ¬s.Holds done := fun hholds => by simp [hholds] at hr
    -- Nobody holds the sender, so the task is over and nothing of it changes any more.
    have hover : s.status.isOver = true := by
      by_contra hover
      exact hholds (h.holds hdone (Bool.eq_false_iff.2 hover) hack)
    have hrunning : s.status.isRunning = false := by
      by_contra hrunning
      have := isOver_of_isRunning (Bool.not_eq_false _ ▸ hrunning)
      exact Bool.noConfusion (this.symm.trans hover)
    obtain ⟨hrt, hstatus⟩ := hstepped.idle hrunning
    have hnot : ¬u.Holds done := by
      rw [Holds, hstatus]
      cases hs : s.status <;> rw [hs] at hover <;> first | exact id | cases hover
    rw [hrt, hack]
    rw [if_neg hholds] at hr
    exact (if_neg hnot).trans hr

theorem run_tracked (happend : P.AppendsOnly) (hs : Tracked received s)
    {actions : List (ChannelAction P)} (hrun : (StreamChannel.step env).run s actions = some u) :
    ∃ received', Tracked received' u := by
  refine Machine.run_invariant (fun u => ∃ received', Tracked received' u) ⟨received, hs⟩ ?_ hrun
  rintro action - u v ⟨received', hu⟩ hstep
  exact (hu.step happend hstep).tracked

theorem run_answer (happend : P.AppendsOnly) (hs : Tracked received s) {done : Sender}
    (hdone : done < s.next) {r : Except Error Unit} (hr : s.answer done = some r)
    {actions : List (ChannelAction P)} (hrun : (StreamChannel.step env).run s actions = some u) :
    u.answer done = some r := by
  have hinv : (∃ received', Tracked received' u) ∧ s.next ≤ u.next ∧ u.answer done = some r := by
    refine Machine.run_invariant
      (fun u => (∃ received', Tracked received' u) ∧ s.next ≤ u.next ∧ u.answer done = some r)
      ⟨⟨received, hs⟩, Nat.le_refl _, hr⟩ ?_ hrun
    rintro action - u v ⟨⟨received', hu⟩, hnext, hr⟩ hstep
    have hstepped := hu.step happend hstep
    exact ⟨hstepped.tracked, hnext.trans hstepped.next,
      hu.answer_step happend hstep (Nat.lt_of_lt_of_le hdone hnext) hr⟩
  exact hinv.2.2

/-- What a `write_and_flush` returns: an `Ok` is an acknowledgement of the task, an answer is final,
and once the task is over every call has its answer, which is `Error::ChannelClosed` where the task
has not sent any. -/
structure Answered (env : Surroundings) (s : StreamChannel P) : Prop where
  ok : ∀ done, s.answer done = some (.ok ()) → (done, .ok ()) ∈ s.rt.acks
  final : ∀ done < s.next, ∀ r, s.answer done = some r → ∀ after u,
    (StreamChannel.step env).run s after = some u → u.answer done = some r
  ended : s.status.isOver = true → ∀ done < s.next, ∃ r, s.answer done = some r ∧
    (s.rt.acks.lookup done = none → r = .error .channelClosed)

theorem Tracked.answered (h : Tracked received s) (happend : P.AppendsOnly) : s.Answered env := by
  refine ⟨fun done hok => ?_, fun done hdone r hr after u => run_answer happend h hdone hr,
    fun hover done _ => ?_⟩
  · rw [answer] at hok
    split at hok
    next ack hack =>
      cases hok
      obtain ⟨before, after, heq, -⟩ := List.lookup_eq_some_iff.1 hack
      rw [heq]
      exact List.mem_append_right _ (.head _)
    next => split at hok <;> cases hok
  · have hnot : ¬s.Holds done := by
      rw [Holds]
      cases hs : s.status <;> rw [hs] at hover <;> first | exact id | cases hover
    rw [answer]
    cases hack : s.rt.acks.lookup done with
    | some ack => exact ⟨ack, rfl, nofun⟩
    | none => exact ⟨_, if_neg hnot, fun _ => rfl⟩

theorem new_tracked (faults : List (Option (Nat × String))) (pipeline : StreamPipeline P)
    (config : TcpConnectionConfig) (tracked : Bool) :
    Tracked [] (new { faults } pipeline config tracked) := by
  have hrests := new_rests { faults } pipeline config tracked rfl
  refine ⟨hrests.acked, fun _ => hrests, ⟨rfl, .slnil, fun before _ _ _ h => ?_⟩, List.prefix_rfl,
    fun _ => rfl, .slnil, fun _ => rfl⟩
  cases before <;> cases h

/-- The acknowledgements of a connection are sound at every point of every run, also during its next
turn, and every `write_and_flush` is answered once. -/
theorem run_acksSound (happend : P.AppendsOnly) (env : Surroundings)
    (faults : List (Option (Nat × String))) (pipeline : StreamPipeline P)
    (config : TcpConnectionConfig) (tracked : Bool) (actions : List (ChannelAction P))
    {s : StreamChannel P}
    (hrun : (StreamChannel.step env).run (new { faults } pipeline config tracked) actions = some s) :
    AcksSound s.queued s.rt ∧
      (∀ action event queue, s.status.isRunning = true → s.event? action = some (event, queue) →
        ∀ rt ∈ (select env event).visited s.rt, AcksSound s.queued rt) ∧
      s.Answered env := by
  obtain ⟨received, hs⟩ := run_tracked happend (new_tracked faults pipeline config tracked) hrun
  refine ⟨hs.acksSound, fun action event queue hrunning hevent => ?_, hs.answered happend⟩
  exact hs.acksSound_turn happend hrunning hevent

/-- A call that is acknowledged, one that the shutdown leaves in the queue, and one that comes too
late. -/
theorem run_acksSound_shutdown :
    ∃ s, (StreamChannel.step (P := FixedLengthFrameDecoder.echo) ⟨fun _ => "", 0⟩).run
        (new {} (FixedLengthFrameDecoder.echoPipeline ⟨2, by decide⟩) {} false)
        [.write [1, 2], .writeAndFlush [3, 4], .read (.ok [9]), .recv, .recv, .writeAndFlush [5, 6],
          .shutdown, .writeAndFlush [7, 8]] = some s ∧
      s.rt.io.stream.sent = [1, 2, 3, 4] ∧
      [0, 1, 2].map (fun done => (s.answer done).map (·.toOption)) =
        [some (some ()), some none, some none] ∧
      AcksSound s.queued s.rt ∧ s.Answered ⟨fun _ => "", 0⟩ := by
  have hend : ((StreamChannel.step (P := FixedLengthFrameDecoder.echo) ⟨fun _ => "", 0⟩).run
      (new {} (FixedLengthFrameDecoder.echoPipeline ⟨2, by decide⟩) {} false)
      [.write [1, 2], .writeAndFlush [3, 4], .read (.ok [9]), .recv, .recv, .writeAndFlush [5, 6],
        .shutdown, .writeAndFlush [7, 8]]).map (fun s => (s.rt.io.stream.sent,
          [0, 1, 2].map fun done => (s.answer done).map (·.toOption))) =
      some ([1, 2, 3, 4], [some (some ()), some none, some none]) := by
    decide
  obtain ⟨s, hrun, hs⟩ := Option.map_eq_some_iff.1 hend
  obtain ⟨hsent, hanswers⟩ := Prod.mk.inj hs
  obtain ⟨hsound, -, hanswered⟩ :=
    run_acksSound FixedLengthFrameDecoder.echo_appendsOnly _ _ _ _ _ _ hrun
  exact ⟨s, hrun, hsent, hanswers, hsound, hanswered⟩

end StreamChannel

end RsNetty

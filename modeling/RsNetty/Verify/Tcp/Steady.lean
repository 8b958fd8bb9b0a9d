import RsNetty.Verify.Tcp.Rules

/-!
# What every step of a pipeline keeps

A connection does the same few things whatever its handler is: it encodes a message, flushes, stages
what the handler writes and runs the stages. What each of them keeps, the pipeline keeps for every
message and every command (`Steady`).
-/

namespace RsNetty
open EStateM Traced

variable {P : StreamStages}

namespace StreamState

/-- A flush finds nothing to send, sends all there is, or fails. -/
theorem flushWriteBuf_holds {s : StreamState P} {Q : StreamState P → Prop}
    {R : Fault → StreamState P → Prop} (hempty : s.writeBuf = [] → Q s)
    (hok : ∀ stream, TcpStream.writeAll s.writeBuf s.stream = .ok () stream →
      Q { (streamPart.set stream s).count (.addBytesWritten s.writeBuf.length) with
        writeBuf := [] })
    (herror : ∀ e stream, TcpStream.writeAll s.writeBuf s.stream = .error e stream →
      R e (streamPart.set stream s)) :
    (flushWriteBuf s).Holds (fun _ => Q) R := by
  rw [flushWriteBuf, get_bind]
  by_cases hbuf : s.writeBuf = []
  · rw [if_neg (not_not.2 hbuf)]
    exact hempty hbuf
  · rw [if_pos hbuf]
    cases hx : TcpStream.writeAll s.writeBuf s.stream with
    | ok _ stream =>
      rw [bind_of_ok (zoom_of_ok (c := streamPart) hx)]
      exact hok stream hx
    | error e stream =>
      rw [bind_of_error (zoom_of_error (c := streamPart) hx)]
      exact herror e stream hx

/-- `K` is kept as long as the pipeline goes on; `R` holds at every point, also after a failure. -/
structure Steady (K R : StreamState P → Prop) : Prop where
  watched : ∀ s, K s → R s
  answered : ∀ t s, R s → R (ctxPart.set t s)
  frame : ∀ msg s, K s → (outboundFrame msg s).Holds (fun _ => K) fun _ => R
  flush : ∀ s, K s → (flushWriteBuf s).Holds (fun _ => K) fun _ => R
  accept : ∀ msg s, K s → K (s.accept msg)
  count : ∀ f s, K s → K (s.count f)
  ctx : ∀ t s, K s → K (ctxPart.set t s)
  inbound : ∀ t s, K s → K (inboundPart.set t s)
  business : ∀ t s, K s → K (businessPart.set t s)
  handler : ∀ t s, K s → K (setHandler t s)

namespace Steady

variable {K R : StreamState P → Prop}

theorem await {α : Type} (h : Steady K R) {x : Exec (StreamState P) α}
    (hx : ∀ s, K s → (x s).Holds (fun _ => K) fun _ => R) :
    Triple R K (RsNetty.await x) (fun _ => K) fun _ => R :=
  await_triple fun s hs =>
    (hx s hs).mono (fun _ t ht => ⟨h.watched t ht, ht⟩) fun _ _ ht => ⟨ht, ht⟩

theorem drainCommands (h : Steady K R) (commands : List (StreamOutboxCommand P.Write)) :
    Triple R K (drainCommands commands) (fun _ => K) fun _ => R := by
  refine drainCommands_triple (J := fun _ => K) ?_ ?_ commands
  · exact fun msg _ => h.await fun s hs => encodeOutbound_holds (h.count _) (h.frame msg s hs)
  · intro done _ s hs
    refine (h.flush s hs).mono (fun _ t ht => ?_) fun _ t ht => ?_
    · have hanswer := h.ctx (t.ctx.send done (.ok ())) t ht
      exact ⟨h.watched t ht, h.watched _ hanswer, hanswer⟩
    · have hanswer (err : Error) := h.answered (t.ctx.send done (.error err)) t ht
      exact ⟨ht, ht, fun err => ⟨hanswer err, hanswer err⟩⟩

theorem drainStreamOutbox (h : Steady K R) (flushAtEnd : Bool) :
    Triple R K (drainStreamOutbox flushAtEnd) (fun _ => K) fun _ => R := by
  refine Triple.bind (h.await fun s hs => h.ctx _ s hs) fun commands => ?_
  refine Triple.bind (h.drainCommands commands) fun _ => ?_
  cases flushAtEnd with
  | false => exact Triple.pure fun s hs => hs
  | true => exact h.await h.flush

theorem runHandler (h : Steady K R) (msg : P.CurrentIn) :
    Triple R K (runHandler msg) (fun _ => K) fun _ => R := by
  refine runHandler_triple h.watched (fun _ => h.watched) (fun _ hs => hs) (fun future => ?_)
    h.handler (h.drainStreamOutbox true)
  apply handlerRuntime.pollHandler_triple h.watched
  · exact fun msg s hs => h.ctx _ _ (h.accept msg s hs)
  · exact h.await fun s hs => h.ctx _ s hs
  · exact fun s hs => h.ctx _ s hs
  · exact h.drainStreamOutbox false
  · exact h.watched
  · exact h.watched

/-- A message, with `S` before it is handed to the pipeline. -/
theorem processInboundFlushable {S : StreamState P → Prop} (h : Steady K R) {msg : P.Item}
    (hhand : ∀ s, S s → K (s.hand msg)) :
    Triple R S (processInboundFlushable msg) (fun _ => K) fun _ => R :=
  processInboundFlushable_triple h.watched (fun _ => h.watched) hhand h.inbound h.business
    h.runHandler

end Steady

end StreamState

namespace StreamConnectionRuntime
open StreamState

/-- A part of the task that leads from `K` to `K'` in the pipeline and keeps `A` of the rest. -/
abbrev Steadily {α : Type} (R K : StreamState P → Prop) (A : StreamConnectionRuntime P → Prop)
    (x : Task P α) (K' : StreamState P → Prop) : Prop :=
  Triple (fun rt => R rt.io) (fun rt => K rt.io ∧ A rt) x (fun _ rt => K' rt.io ∧ A rt)
    fun _ rt => R rt.io

variable {K K' R : StreamState P → Prop} {A : StreamConnectionRuntime P → Prop}

/-- A part of the pipeline leaves the rest of the task alone. -/
theorem onIo_steadily {α : Type} {failure : Error → ConnectionFailure}
    {x : Traced (Exit Error) (StreamState P) α} (hA : ∀ s rt, A rt → A (ioPart.set s rt))
    (h : Triple R K x (fun _ => K') fun _ => R) : Steadily R K A (onIo failure x) K' := by
  apply Triple.zoom
  rintro rt ⟨hrt, hrest⟩
  have hmapped : Triple R K (mapError (Exit.map failure) x) (fun _ => K') fun _ => R :=
    Triple.mapError h
  exact hmapped.mono (fun s hs => hs ▸ hrt) (fun _ s hs => ⟨hs, hA s rt hrest⟩) fun _ _ hs => hs

/-- A change that both the pipeline and the rest of the task keep. -/
theorem modify_steadily (h : Steady K R) {f : StreamConnectionRuntime P → StreamConnectionRuntime P}
    (hf : ∀ rt, K rt.io → A rt → K (f rt).io ∧ A (f rt)) : Steadily R K A (step (modify f)) K :=
  Triple.step fun rt hrt =>
    have hchanged := hf rt hrt.1 hrt.2
    ⟨h.watched _ hchanged.1, hchanged⟩

theorem writeMessage_steadily (h : Steady K R) (hA : ∀ s rt, A rt → A (ioPart.set s rt))
    (msg : P.Write) : Steadily R K A (writeMessage msg) K := by
  apply Triple.bind (Q := fun _ rt => K rt.io ∧ A rt)
  · exact modify_steadily h fun rt hrt hrest => ⟨h.accept msg _ hrt, hA _ _ hrest⟩
  intro _
  apply Triple.bind (Q := fun _ rt => K rt.io ∧ A rt)
  · exact onIo_steadily hA (h.await fun s hs => processOutbound_holds (h.frame msg s hs))
  intro _
  apply Triple.bind (Q := fun _ rt => K rt.io ∧ A rt)
  · exact modify_steadily h fun rt hrt hrest => ⟨h.count _ _ hrt, hA _ _ hrest⟩
  · exact fun _ => onIo_steadily hA (h.await h.flush)

/-- A command, of which `A` takes no notice. -/
theorem handleCommand_steadily (h : Steady K R) (hA : ∀ s rt, A rt → A (ioPart.set s rt))
    (hacks : ∀ acks asked rt, A rt → A { rt with acks, asked }) (env : Surroundings)
    (cmd : Option (StreamCommand P.Write)) : Steadily R K A (handleCommand env cmd) K := by
  cases cmd with
  | none => exact Triple.pure fun _ hrt => hrt
  | some cmd =>
    cases cmd with
    | close => exact Triple.pure fun _ hrt => hrt
    | write msg =>
      exact Triple.bind (writeMessage_steadily h hA msg) fun _ => Triple.pure fun _ hrt => hrt
    | writeAndFlush msg done =>
      refine writeAndFlush_triple (modify_steadily h fun rt hrt hrest => ?_)
        (writeMessage_steadily h hA msg) ?_ ?_ ?_ ?_ env
      · exact ⟨hrt, hacks _ _ _ hrest⟩
      · exact fun rt hrt => ⟨h.watched _ hrt.1, hrt.1, hacks _ _ _ hrt.2⟩
      · exact fun _ _ _ hrt => ⟨hrt, hrt⟩
      · exact fun _ hrt => hrt
      · exact fun _ hrt => hrt

/-- The rest of a task of which nothing is known. -/
abbrev Anything : StreamConnectionRuntime P → Prop := fun _ => True

/-- A turn, from what decoding and handing on a message keep. -/
theorem select_steadily (h : Steady K R) (hdecode : Steadily R K Anything decode K)
    (hhand : ∀ msg s, K s → K (s.hand msg)) (env : Surroundings) (event : Event P.Write) :
    Steadily R K Anything (select env event) K := by
  have hcount (f : ReadStats → ReadStats) : Steadily R K Anything (countRead f) K :=
    modify_steadily h fun _ hrt _ => ⟨hrt, trivial⟩
  cases event with
  | read read =>
    cases read with
    | error err => exact Triple.fail fun rt hrt => h.watched _ hrt.1
    | ok bytes =>
      apply Triple.bind (Q := fun _ rt => K rt.io ∧ Anything rt)
      · exact modify_steadily h fun _ hrt _ => ⟨hrt, trivial⟩
      · intro _
        refine handleRead_triple (fun _ rt hrt => h.watched _ hrt.1) (fun _ _ hrt => hrt) (hcount _)
          ?_ env
        refine decodeLoop_triple (fun _ rt hrt => h.watched _ hrt.1) hdecode (hcount _)
          fun msg => ?_
        exact onIo_steadily (fun _ _ _ => trivial) (h.processInboundFlushable (hhand msg))
  | command cmd =>
    exact handleCommand_steadily h (fun _ _ _ => trivial) (fun _ _ _ _ => trivial) env cmd
  | shutdown => exact Triple.pure fun _ hrt => hrt
  | idle =>
    refine Triple.look_keep fun rt _ => ?_
    split
    · exact Triple.pure fun _ hrt => hrt
    · exact Triple.pure fun _ hrt => hrt

end StreamConnectionRuntime

end RsNetty

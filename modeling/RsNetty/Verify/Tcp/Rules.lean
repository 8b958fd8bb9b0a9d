import RsNetty.Transport.Tcp.Connection

/-!
# Rules for the programs of a connection

What a connection keeps is shown for one message at the outbound stages and for one flush. The rules
carry it through the drain of an outbox, through a handler and the stages in front of it, and then
through the turns of the task.
-/

namespace RsNetty
open EStateM Traced

namespace StreamState

variable {P : StreamStages} {s : StreamState P} {msg : P.Write}

/-! ## One message -/

theorem processOutbound_holds {Q : StreamState P → Prop} {R : Fault → StreamState P → Prop}
    (h : (outboundFrame msg s).Holds (fun _ => Q) R) :
    (processOutbound msg s).Holds (fun _ => Q) R := by
  cases hx : outboundFrame msg s with
  | ok encoded t =>
    rw [hx] at h
    rw [processOutbound, bind_of_ok hx]
    exact h
  | error e t =>
    rw [hx] at h
    rw [processOutbound, bind_of_error hx]
    exact h

/-- Frames are counted when they are encoded. -/
theorem encodeOutbound_holds {Q : StreamState P → Prop} {R : Fault → StreamState P → Prop}
    (hcount : ∀ t, Q t → Q (t.count .addFrameWritten))
    (h : (outboundFrame msg s).Holds (fun _ => Q) R) :
    (encodeOutbound msg s).Holds (fun _ => Q) R := by
  cases hx : outboundFrame msg s with
  | ok encoded t =>
    rw [hx] at h
    rw [encodeOutbound, bind_of_ok hx]
    cases encoded with
    | true => exact hcount t h
    | false => exact h
  | error e t =>
    rw [hx] at h
    rw [encodeOutbound, bind_of_error hx]
    exact h

/-! ## Draining the outbox -/

/-- The connection once a flush is answered. -/
def answer (done : Sender) (ack : Except Error Unit) (s : StreamState P) : StreamState P :=
  { s with ctx := s.ctx.send done ack }

section
variable {I : StreamState P → Prop} {R : Exit Error → StreamState P → Prop}

/-- What holds of a connection with these commands before it. A failed flush is answered before it
ends the drain. -/
theorem drainCommands_triple {J : List (StreamOutboxCommand P.Write) → StreamState P → Prop}
    (hwrite : ∀ msg commands,
      Triple I (J (.write msg :: commands)) (await (encodeOutbound msg)) (fun _ => J commands) R)
    (hflush : ∀ done commands s, J (.flush done :: commands) s →
      (flushWriteBuf s).Holds
        (fun _ t => I t ∧ I (t.answer done (.ok ())) ∧ J commands (t.answer done (.ok ())))
        fun e t => I t ∧ R e.exit t ∧
          ∀ err, I (t.answer done (.error err)) ∧ R e.exit (t.answer done (.error err)))
    (commands : List (StreamOutboxCommand P.Write)) :
    Triple I (J commands) (drainCommands commands) (fun _ => J []) R := by
  induction commands with
  | nil => exact Triple.pure fun _ hs => hs
  | cons command commands ih =>
    cases command with
    | write msg => exact Triple.bind (hwrite msg commands) fun _ => ih
    | flush done =>
      refine report_triple (X := fun e t =>
        R e t ∧ ∀ err, I (t.answer done (.error err)) ∧ R e (t.answer done (.error err)))
        (await_triple fun s hs => ?_) (fun t ht => ht) ?_ (fun t ht => ht.1) (fun t ht => ht.1) ih
      · exact (hflush done commands s hs).mono (fun _ t ht => ht) fun _ t ht => ht
      · exact fun e t ht => ht.2 _

/-! ## One inbound message -/

variable {K S : StreamState P → Prop}

theorem runHandler_triple {msg : P.CurrentIn} (hI : ∀ s, S s → I s)
    (hR : ∀ e s, K s → R (.err e) s) (hstart : ∀ s, K s → S s)
    (hpoll : ∀ future : HandlerFuture P.H P.Write,
      Triple I S (handlerRuntime.pollHandler future) (fun _ => S) R)
    (hset : ∀ handler s, S s → S (setHandler handler s))
    (hdrain : Triple I S (drainStreamOutbox true) (fun _ => K) R) :
    Triple I K (runHandler msg) (fun _ => K) R :=
  handlerRuntime.run_triple hI hR hstart hpoll hset hdrain

theorem processInboundFlushable_triple {msg : P.Item} (hI : ∀ s, K s → I s)
    (hR : ∀ e s, K s → R e s) (hhand : ∀ s, S s → K (s.hand msg))
    (hinbound : ∀ t s, K s → K (inboundPart.set t s))
    (hbusiness : ∀ t s, K s → K (businessPart.set t s))
    (hrun : ∀ msg, Triple I K (runHandler msg) (fun _ => K) R) :
    Triple I S (processInboundFlushable msg) (fun _ => K) R := by
  apply Triple.bind (Q := fun _ => K)
  · exact Triple.step fun s hs => ⟨hI _ (hhand s hs), hhand s hs⟩
  intro _
  refine stage_triple hI hR hinbound (Triple.pure fun _ hs => hs) fun msg => ?_
  exact stage_triple hI hR hbusiness (Triple.pure fun _ hs => hs) hrun

end

end StreamState

namespace StreamConnectionRuntime
variable {P : StreamStages} {I K : StreamConnectionRuntime P → Prop}
  {R : Exit ConnectionFailure → StreamConnectionRuntime P → Prop}

/-! ## A read -/

/-- The loop with `K` at its head and `M` once a frame is counted. -/
theorem decodeLoop_triple {M : StreamConnectionRuntime P → Prop} (hR : ∀ e rt, K rt → R e rt)
    (hdecode : Triple I K decode (fun _ => K) R)
    (hcount : Triple I K (countRead .addFrameRead) (fun _ => M) R)
    (hmsg : ∀ msg, Triple I M (onIo handlerFailure (StreamState.processInboundFlushable msg))
      (fun _ => K) R)
    (fuel : Nat) : Triple I K (decodeLoop fuel) (fun _ => K) R := by
  induction fuel with
  | zero => exact Triple.fail fun rt hrt => hR .hang rt hrt
  | succ fuel ih =>
    refine Triple.bind hdecode fun item => ?_
    cases item with
    | none => exact Triple.pure fun rt hrt => hrt
    | some msg =>
      refine Triple.bind hcount fun _ => ?_
      refine Triple.bind (hmsg msg) fun _ => ?_
      refine Triple.look_keep fun rt _ => ?_
      split
      · exact Triple.pure fun _ hrt => hrt
      · exact ih

/-- A read of `readLen` bytes, with `B` before they are counted. -/
theorem handleRead_triple {B : StreamConnectionRuntime P → Prop} {readLen : Nat}
    (hR : ∀ e rt, K rt → R e rt) (hzero : readLen = 0 → ∀ rt, B rt → K rt)
    (hcount : Triple I B (countRead (.addBytesRead readLen)) (fun _ => K) R)
    (hloop : ∀ fuel, Triple I K (decodeLoop fuel) (fun _ => K) R) (env : Surroundings) :
    Triple I B (handleRead env (.ok readLen)) (fun _ => K) R := by
  unfold handleRead
  dsimp only
  split
  next h => exact Triple.pure (hzero h)
  next =>
    refine Triple.bind hcount fun _ => ?_
    refine Triple.look_keep fun rt _ => ?_
    split
    · refine Triple.bind (Q := fun _ => K) ?_ fun _ => hloop _
      exact Triple.fail fun rt hrt => hR _ rt hrt
    · exact hloop _

/-! ## A command -/

/-- The task once a command is answered. -/
def answer (done : Sender) (ack : Except Error Unit) (rt : StreamConnectionRuntime P) :
    StreamConnectionRuntime P :=
  { rt with acks := rt.acks ++ [(done, ack)] }

/-- A message written with `D` after it, or `E` if it fails. A failed write is answered before it
ends the task. -/
theorem writeAndFlush_triple {A B D : StreamConnectionRuntime P → Prop}
    {E : Exit ConnectionFailure → StreamConnectionRuntime P → Prop}
    {Q : Option CloseReason → StreamConnectionRuntime P → Prop} {msg : P.Write} {done : Sender}
    (hask : Triple I A (ask done) (fun _ => B) R)
    (hwrite : Triple I B (writeMessage msg) (fun _ => D) E)
    (hok : ∀ rt, D rt → I (rt.answer done (.ok ())) ∧ Q none (rt.answer done (.ok ())))
    (herror : ∀ e err rt, E (.err e) rt →
      I (rt.answer done (.error err)) ∧ R (.err e) (rt.answer done (.error err)))
    (hpanic : ∀ rt, E .panic rt → R .panic rt) (hhang : ∀ rt, E .hang rt → R .hang rt)
    (env : Surroundings) :
    Triple I A (handleCommand env (some (.writeAndFlush msg done))) Q R := by
  refine Triple.bind hask fun _ => ?_
  refine report_triple (K := Q none) hwrite hok ?_ hpanic hhang (Triple.pure fun rt hrt => hrt)
  exact fun e rt hrt => herror e _ rt hrt

/-! ## A turn -/

/-- What holds of a connection whatever it reads. -/
structure Unread (I K : StreamConnectionRuntime P → Prop)
    (R : Exit ConnectionFailure → StreamConnectionRuntime P → Prop) : Prop where
  watched : ∀ rt, K rt → I rt
  failed : ∀ e rt, K rt → R e rt
  decoded : ∀ s rt, K rt → K (decodePart.set s rt)
  read : ∀ readBuf stats rt, K rt → K { rt with readBuf, stats }

namespace Unread

theorem decode_triple (h : Unread I K R) : Triple I K decode (fun _ => K) R := by
  apply Triple.mapError
  exact await_zoom_triple h.watched (fun e rt hrt => h.failed _ rt hrt) h.decoded

theorem countRead_triple (h : Unread I K R) (f : ReadStats → ReadStats) :
    Triple I K (countRead f) (fun _ => K) R :=
  Triple.step fun rt hrt =>
    have hcounted := h.read rt.readBuf (rt.stats.map f) rt hrt
    ⟨h.watched _ hcounted, hcounted⟩

/-- A turn, from what its messages and its command keep. -/
theorem select_triple (h : Unread I K R)
    (hmsg : ∀ msg, Triple I K (onIo handlerFailure (StreamState.processInboundFlushable msg))
      (fun _ => K) R)
    (env : Surroundings) {event : Event P.Write}
    (hcommand : ∀ cmd, event = .command cmd → Triple I K (handleCommand env cmd) (fun _ => K) R) :
    Triple I K (select env event) (fun _ => K) R := by
  cases event with
  | read read =>
    cases read with
    | error err => exact Triple.fail fun rt hrt => h.failed _ rt hrt
    | ok bytes =>
      apply Triple.bind (Q := fun _ => K)
      · refine Triple.step fun rt hrt => ?_
        have hfilled := h.read (rt.readBuf ++ bytes) rt.stats rt hrt
        exact ⟨h.watched _ hfilled, hfilled⟩
      · intro _
        refine handleRead_triple h.failed (fun _ _ hrt => hrt) (h.countRead_triple _) ?_ env
        exact decodeLoop_triple h.failed h.decode_triple (h.countRead_triple _) hmsg
  | command cmd => exact hcommand cmd rfl
  | shutdown => exact Triple.pure fun rt hrt => hrt
  | idle =>
    refine Triple.look_keep fun rt _ => ?_
    split
    · exact Triple.pure fun _ hrt => hrt
    · exact Triple.pure fun _ hrt => hrt

end Unread

theorem run_triple (env : Surroundings)
    (hselect : ∀ event, Triple I K (select env event) (fun _ => K) R)
    (events : List (Event P.Write)) : Triple I K (run env events) (fun _ => K) R := by
  induction events with
  | nil => exact Triple.pure fun rt hrt => hrt
  | cons event events ih =>
    refine Triple.bind (hselect event) fun closed => ?_
    cases closed with
    | some reason => exact Triple.pure fun rt hrt => hrt
    | none => exact ih

end StreamConnectionRuntime

end RsNetty

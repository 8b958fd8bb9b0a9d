import RsNetty.Error
import RsNetty.Theory.Traced

/-!
# Handlers and their contexts

What the TCP and the UDP runtime share: socket addresses, the outbox of a context, the future of a
handler that uses it, and the loop that polls this future. A message `M` of the outbox is a write of
a TCP handler, or a peer with a write of a UDP handler.
-/

namespace RsNetty
open EStateM Traced

/-- An IP address, as octets, and a port. -/
structure SocketAddr where
  ip : Bytes
  port : UInt16
deriving DecidableEq

/-- Result of one pipeline stage. -/
inductive Flow (T : Type) where
  | next (value : T)
  | stop

/-- Why an `async` call does not return a value. A call that hangs is never ready again. -/
inductive Exit (E : Type) where
  | err (e : E)
  | panic
  | hang
deriving DecidableEq

/-- `map_err` -/
def Exit.map {E F : Type} (f : E → F) : Exit E → Exit F
  | .err e => .err (f e)
  | .panic => .panic
  | .hang => .hang

def Fault.exit : Fault → Exit Error
  | .err e => .err e
  | .panic => .panic

/-- Only an `Err` is a value that the caller can look at. -/
def Exit.caught {E F : Type} : Exit E → Except (Exit F) E
  | .err e => .ok e
  | .panic => .error .panic
  | .hang => .error .hang

/-- A call that nothing interrupts. -/
def await {σ α : Type} (x : Exec σ α) : Traced (Exit Error) σ α := mapError Fault.exit (step x)

/-- `result?` -/
def propagate {σ E α : Type} : Except E α → Traced (Exit E) σ α
  | .ok a => pure a
  | .error e => fail (.err e)

theorem propagate_triple {σ E α : Type} {I P : σ → Prop} {result : Except E α} {Q : α → σ → Prop}
    {R : Exit E → σ → Prop} (hok : ∀ a s, result = .ok a → P s → Q a s)
    (herror : ∀ e s, result = .error e → P s → R (.err e) s) :
    Triple I P (propagate result) Q R := by
  cases result with
  | ok a => exact Triple.pure fun s hs => hok a s rfl hs
  | error e => exact Triple.fail fun s hs => herror e s rfl hs

/-- A call whose result is reported, also if it fails, before a failure is passed on. -/
theorem report_triple {σ E β : Type} {I P D K : σ → Prop} {X R : Exit E → σ → Prop}
    {Q : β → σ → Prop} {x : Traced (Exit E) σ Unit} {report : Except E Unit → σ → σ}
    {rest : Traced (Exit E) σ β} (hx : Triple I P x (fun _ => D) X)
    (hok : ∀ s, D s → I (report (.ok ()) s) ∧ K (report (.ok ()) s))
    (herror : ∀ e s, X (.err e) s → I (report (.error e) s) ∧ R (.err e) (report (.error e) s))
    (hpanic : ∀ s, X .panic s → R .panic s) (hhang : ∀ s, X .hang s → R .hang s)
    (hrest : Triple I K rest Q R) :
    Triple I P (do
      let result ← attempt Exit.caught x
      step (modify (report result))
      propagate result
      rest) Q R := by
  let After (result : Except E Unit) (s : σ) : Prop :=
    (result = .ok () → K s) ∧ ∀ e, result = .error e → R (.err e) s
  apply Triple.bind (Q := fun result s => I (report result s) ∧ After result (report result s))
  · apply Triple.attempt
    refine hx.mono (fun s hs => hs) ?_ ?_
    · exact fun _ s hs => ⟨(hok s hs).1, fun _ => (hok s hs).2, nofun⟩
    · intro e s hs
      cases e with
      | err e =>
        refine ⟨fun d h => ?_, nofun⟩
        cases h
        exact ⟨(herror e s hs).1, nofun, fun _ h => Except.error.inj h ▸ (herror e s hs).2⟩
      | panic => exact ⟨nofun, fun _ h => Except.error.inj h ▸ hpanic s hs⟩
      | hang => exact ⟨nofun, fun _ h => Except.error.inj h ▸ hhang s hs⟩
  · intro result
    apply Triple.bind (Q := fun _ => After result)
    · exact Triple.step fun s hs => hs
    · intro _
      apply Triple.bind (Q := fun _ => K)
      · exact propagate_triple (fun _ _ h hs => hs.1 h) fun e _ h hs => hs.2 e h
      · exact fun _ => hrest

theorem await_triple {σ α : Type} {I P : σ → Prop} {x : Exec σ α} {Q : α → σ → Prop}
    {R : Exit Error → σ → Prop}
    (h : ∀ s, P s → (x s).Holds (fun a t => I t ∧ Q a t) fun e t => I t ∧ R e.exit t) :
    Triple I P (await x) Q R :=
  Triple.mapError (Triple.step h)

/-- A call on a component that `K` does not depend on. -/
theorem await_zoom_triple {σ τ α : Type} {I K : σ → Prop} {c : Component σ τ} {x : Exec τ α}
    {R : Exit Error → σ → Prop} (hI : ∀ s, K s → I s) (hR : ∀ e s, K s → R e s)
    (hc : ∀ t s, K s → K (c.set t s)) : Triple I K (await (EStateM.zoom c x)) (fun _ => K) R := by
  refine await_triple fun s hs => ?_
  unfold EStateM.zoom
  cases x (c.get s) with
  | ok a t => exact ⟨hI _ (hc t s hs), hc t s hs⟩
  | error e t => exact ⟨hI _ (hc t s hs), hR _ _ (hc t s hs)⟩

/-- A call after which `E` holds if it fails. -/
theorem await_triple_of_holds {σ α : Type} {I P E : σ → Prop} {x : Exec σ α} {Q : α → σ → Prop}
    (hQ : ∀ a s, Q a s → I s) (hE : ∀ s, E s → I s) (h : ∀ s, P s → (x s).Holds Q fun _ => E) :
    Triple I P (await x) Q fun _ => E := by
  refine await_triple fun s hs => ?_
  exact (h s hs).mono (fun a t ht => ⟨hQ a t ht, ht⟩) fun _ t ht => ⟨hE t ht, ht⟩

/-- The rule for a stage on a component that `K` does not depend on. -/
theorem stage_triple {σ τ A : Type} {I K : σ → Prop} {R : Exit Error → σ → Prop}
    {c : Component σ τ} {stage : Exec τ (Flow A)} {rest : Flow A → Traced (Exit Error) σ Unit}
    (hI : ∀ s, K s → I s) (hR : ∀ e s, K s → R e s) (hc : ∀ t s, K s → K (c.set t s))
    (hstop : Triple I K (rest .stop) (fun _ => K) R)
    (hnext : ∀ msg, Triple I K (rest (.next msg)) (fun _ => K) R) :
    Triple I K (await (EStateM.zoom c stage) >>= rest) (fun _ => K) R := by
  refine Triple.bind (await_zoom_triple hI hR hc) fun flow => ?_
  cases flow with
  | stop => exact hstop
  | next msg => exact hnext msg

/-- The `Sender` half of a one-shot channel, by the number of the channel. -/
abbrev Sender := Nat

/-- What has been sent on one-shot channels. -/
abbrev Acks := List (Sender × Except Error Unit)

inductive OutboxCommand (M : Type) where
  | write (msg : M)
  | flush (done : Sender)

/-- The message a command writes. -/
def OutboxCommand.msg? {M : Type} : OutboxCommand M → Option M
  | .write msg => some msg
  | .flush _ => none

/-- The outbox, the flag of `close` and the acknowledgement channels made by `push_flush`. `asked`
tells for each of these channels how many messages had been accepted for output when it was made;
nothing depends on it. -/
structure Context (M : Type) where
  outbox : List (OutboxCommand M) := []
  closeRequested : Bool := false
  flushes : Nat := 0
  acks : Acks := []
  asked : List (Sender × Nat) := []

namespace Context
variable {M : Type}

/-- `inner.push_back(command)` -/
def push (command : OutboxCommand M) (ctx : Context M) : Context M :=
  { ctx with outbox := ctx.outbox ++ [command] }

def pushWrite (msg : M) (ctx : Context M) : Context M := ctx.push (.write msg)

def pushFlush (accepted : Nat) : Exec (Context M) Sender := fun ctx =>
  let done := ctx.flushes
  .ok done { ctx.push (.flush done) with
    flushes := done + 1, asked := ctx.asked ++ [(done, accepted)] }

def hasFlushCommand (ctx : Context M) : Bool := ctx.outbox.any (·.msg?.isNone)

def takeCommands : Exec (Context M) (List (OutboxCommand M)) := fun ctx =>
  .ok ctx.outbox { ctx with outbox := [] }

/-- `done.send(ack)` -/
def send (done : Sender) (ack : Except Error Unit) (ctx : Context M) : Context M :=
  { ctx with acks := ctx.acks ++ [(done, ack)] }

def close (ctx : Context M) : Context M := { ctx with closeRequested := true }

/-- The messages that wait in the outbox. -/
def staged (ctx : Context M) : List M := ctx.outbox.filterMap (·.msg?)

@[simp] theorem staged_pushWrite (msg : M) (ctx : Context M) :
    (ctx.pushWrite msg).staged = ctx.staged ++ [msg] := by
  simp [staged, pushWrite, push, OutboxCommand.msg?]

@[simp] theorem staged_push_flush (done : Sender) (ctx : Context M) :
    (ctx.push (.flush done)).staged = ctx.staged := by
  simp [staged, push, OutboxCommand.msg?]

end Context

/-- The future of one `Handler::read`: what it does with its context, `suspend` for an `await` of
anything else, and the handler it leaves behind. -/
inductive HandlerFuture (H M : Type) where
  | ready (result : Except Error Unit) (handler : H)
  | panic
  | write (msg : M) (rest : HandlerFuture H M)
  /-- Ask for a flush; the result comes on the channel. -/
  | pushFlush (rest : Sender → HandlerFuture H M)
  | awaitFlush (done : Sender) (rest : Except Error Unit → HandlerFuture H M)
  | suspend (rest : HandlerFuture H M)
  | close (rest : HandlerFuture H M)

namespace HandlerFuture
variable {H M : Type}

/-- `Context::flush` -/
def flush (rest : Except Error Unit → HandlerFuture H M) : HandlerFuture H M :=
  .pushFlush fun done => .awaitFlush done rest

/-- `Context::write_and_flush` -/
def writeAndFlush (msg : M) (rest : Except Error Unit → HandlerFuture H M) : HandlerFuture H M :=
  .write msg (flush rest)

/-- The handler writes allowed messages only, if its flushes are answered in this way. -/
def Writes (allowed : M → Prop) (answer : Except Error Unit → Prop) : HandlerFuture H M → Prop
  | .ready _ _ => True
  | .panic => True
  | .write msg rest => allowed msg ∧ rest.Writes allowed answer
  | .pushFlush rest => ∀ done, (rest done).Writes allowed answer
  | .awaitFlush _ rest => ∀ ack, answer ack → (rest ack).Writes allowed answer
  | .suspend rest => rest.Writes allowed answer
  | .close rest => rest.Writes allowed answer

theorem writes_anything (handler : HandlerFuture H M) :
    handler.Writes (fun _ => True) fun _ => True := by
  induction handler with
  | ready result handler => trivial
  | panic => trivial
  | write msg rest ih => exact ⟨trivial, ih⟩
  | pushFlush rest ih => exact ih
  | awaitFlush done rest ih => exact fun ack _ => ih ack
  | suspend rest ih => exact ih
  | close rest ih => exact ih

end HandlerFuture

/-- What the runtime does for a handler: it stages a message or a flush, and drains the outbox while
the handler waits for a flush. -/
structure HandlerRuntime (σ M : Type) where
  ctx : Component σ (Context M)
  pushWrite : M → σ → σ
  pushFlush : Exec σ Sender
  drainOutbox : Traced (Exit Error) σ Unit

namespace HandlerRuntime
variable {σ M H : Type} (rt : HandlerRuntime σ M)

/-- A pending handler is polled again once its outbox is drained, provided a flush is asked for. -/
def pending : Traced (Exit Error) σ Unit := do
  if (rt.ctx.get (← look)).hasFlushCommand then
    rt.drainOutbox

/-- The receiver of a flush is ready once the flush is acknowledged, which only draining does. -/
def received (done : Sender) : Traced (Exit Error) σ (Except Error Unit) := do
  match (rt.ctx.get (← look)).acks.lookup done with
  | some ack => return ack
  | none => fail .hang

/-- The loop over `handler.poll` in `process_inbound_flushable`. -/
def pollHandler : HandlerFuture H M → Traced (Exit Error) σ (Except Error Unit × H)
  | .ready result handler => pure (result, handler)
  | .panic => fail .panic
  | .write msg rest => do
    step (modify (rt.pushWrite msg))
    pollHandler rest
  | .pushFlush rest => do
    let done ← await rt.pushFlush
    pollHandler (rest done)
  | .awaitFlush done rest => do
    if (rt.ctx.get (← look)).acks.lookup done = none then
      rt.pending
    let ack ← rt.received done
    pollHandler (rest ack)
  | .suspend rest => do
    rt.pending
    pollHandler rest
  | .close rest => do
    step (modify fun s => rt.ctx.set (rt.ctx.get s).close s)
    pollHandler rest

/-- The rule for a handler: an invariant that each of its steps keeps, where it writes what it may
as long as its flushes are answered as they are. -/
theorem pollHandler_triple_of_writes {I J : σ → Prop} {R : Exit Error → σ → Prop}
    {allowed : M → Prop} {answer : Except Error Unit → Prop}
    (hvisit : ∀ s, J s → I s)
    (hwrite : ∀ msg s, allowed msg → J s → J (rt.pushWrite msg s))
    (hflush : Triple I J (await rt.pushFlush) (fun _ => J) R)
    (hanswer : ∀ s done ack, J s → (rt.ctx.get s).acks.lookup done = some ack → answer ack)
    (hclose : ∀ s, J s → J (rt.ctx.set (rt.ctx.get s).close s))
    (hdrain : Triple I J rt.drainOutbox (fun _ => J) R)
    (hpanic : ∀ s, J s → R .panic s) (hhang : ∀ s, J s → R .hang s)
    (handler : HandlerFuture H M) (hhandler : handler.Writes allowed answer) :
    Triple I J (rt.pollHandler handler) (fun _ => J) R := by
  have hpending : Triple I J rt.pending (fun _ => J) R := by
    refine Triple.look_keep fun s _ => ?_
    split
    · exact hdrain
    · exact Triple.pure fun _ hs => hs
  induction handler with
  | ready result handler => exact Triple.pure fun s hs => hs
  | panic => exact Triple.fail hpanic
  | write msg rest ih =>
    apply Triple.bind (Q := fun _ => J)
    · apply Triple.step
      intro s hs
      exact ⟨hvisit _ (hwrite msg s hhandler.1 hs), hwrite msg s hhandler.1 hs⟩
    · exact fun _ => ih hhandler.2
  | pushFlush rest ih => exact Triple.bind hflush fun done => ih done (hhandler done)
  | awaitFlush done rest ih =>
    have hreceived : Triple I J (rt.received done >>= fun ack => rt.pollHandler (rest ack))
        (fun _ => J) R := by
      apply Triple.bind (Q := fun ack s => J s ∧ answer ack)
      · refine Triple.look_bind fun s hs => ?_
        split
        next ack hack => exact Triple.pure fun t ht => ⟨ht ▸ hs, hanswer s done ack hs hack⟩
        next => exact Triple.fail fun t ht => ht ▸ hhang s hs
      · intro ack s hs
        exact ih ack (hhandler ack hs.2) s hs.1
    refine Triple.look_keep fun s _ => ?_
    split
    · exact Triple.bind hpending fun _ => hreceived
    · exact hreceived
  | suspend rest ih => exact Triple.bind hpending fun _ => ih hhandler
  | close rest ih =>
    apply Triple.bind (Q := fun _ => J)
    · apply Triple.step
      intro s hs
      exact ⟨hvisit _ (hclose s hs), hclose s hs⟩
    · exact fun _ => ih hhandler

/-- The rule for a handler of which nothing is known. -/
theorem pollHandler_triple {I J : σ → Prop} {R : Exit Error → σ → Prop}
    (hvisit : ∀ s, J s → I s)
    (hwrite : ∀ msg s, J s → J (rt.pushWrite msg s))
    (hflush : Triple I J (await rt.pushFlush) (fun _ => J) R)
    (hclose : ∀ s, J s → J (rt.ctx.set (rt.ctx.get s).close s))
    (hdrain : Triple I J rt.drainOutbox (fun _ => J) R)
    (hpanic : ∀ s, J s → R .panic s) (hhang : ∀ s, J s → R .hang s)
    (handler : HandlerFuture H M) :
    Triple I J (rt.pollHandler handler) (fun _ => J) R :=
  rt.pollHandler_triple_of_writes hvisit (fun msg s _ => hwrite msg s) hflush
    (fun _ _ _ _ _ => trivial) hclose hdrain hpanic hhang handler handler.writes_anything

/-- The rule for a handler with all that is done for it: it is polled and put back, what it leaves
in its outbox is drained, and its result is passed on. -/
theorem run_triple {I K S : σ → Prop} {R : Exit Error → σ → Prop} {future : σ → HandlerFuture H M}
    {setHandler : H → σ → σ} {drain : Traced (Exit Error) σ Unit} (hI : ∀ s, S s → I s)
    (hR : ∀ e s, K s → R (.err e) s) (hstart : ∀ s, K s → S s)
    (hpoll : ∀ future : HandlerFuture H M,
      Triple I S (rt.pollHandler future) (fun _ => S) R)
    (hset : ∀ handler s, S s → S (setHandler handler s))
    (hdrain : Triple I S drain (fun _ => K) R) :
    Triple I K (do
      let future := future (← look)
      let (result, handler) ← rt.pollHandler future
      step (modify (setHandler handler))
      drain
      propagate result) (fun _ => K) R := by
  refine Triple.look_bind fun s hs => ?_
  apply Triple.bind (Q := fun _ => S)
  · exact (hpoll _).pre fun t ht => ht ▸ hstart s hs
  · rintro ⟨result, handler⟩
    apply Triple.bind (Q := fun _ => S)
    · exact Triple.step fun t ht => ⟨hI _ (hset handler t ht), hset handler t ht⟩
    · intro _
      refine Triple.bind hdrain fun _ => ?_
      exact propagate_triple (fun _ _ _ ht => ht) fun e _ _ ht => hR e _ ht

end HandlerRuntime

end RsNetty

import Mathlib.Logic.Equiv.Prod
import RsNetty.Pipeline.Builder
import RsNetty.Verify.Tcp.Outbound

/-!
# Stages run in the order in which they were added

The pipes of a pipeline are nested to the left, each stage behind all those before it. Here the
stages are a list again, with a state for each, and `Runs` is what they do with a message one after
the other. `process_inbound` and `process_inbound_flushable` run the inbound and the business stages
in this way, `process_outbound` the outbound stages. What a handler that never waits for a flush
leaves to `process_inbound` in its outbox is what `process_inbound_flushable` encodes for it.
-/

namespace RsNetty
open EStateM Traced

/-! ## Stages one after the other -/

/-- Stages, each of which takes what the one before it hands on, with the states they have together. -/
inductive StageList : (I Out States : Type) → Type 1
  | nil : StageList I I Unit
  | cons (stage : Pipe I Mid) (stages : StageList Mid Out States) :
    StageList I Out (stage.State × States)

namespace StageList
variable {I Mid Out States : Type}

/-- What the stages do with a message: how it ends, and the states that they are left in. A stage
runs on what the one before it handed on; behind a `Stop` or an `Err` nothing changes. -/
inductive Runs : {I Out States : Type} → StageList I Out States → States → I → States →
    Except Fault (Flow Out) → Prop
  | done : Runs nil () msg () (.ok (.next msg))
  | next : stage.process msg s = .ok (.next mid) s' → Runs stages states mid states' ending →
      Runs (cons stage stages) (s, states) msg (s', states') ending
  | stop : stage.process msg s = .ok .stop s' →
      Runs (cons stage stages) (s, states) msg (s', states) (.ok .stop)
  | err : stage.process msg s = .error e s' →
      Runs (cons stage stages) (s, states) msg (s', states) (.error e)

theorem exists_runs (stages : StageList I Out States) (states : States) (msg : I) :
    ∃ states' ending, stages.Runs states msg states' ending := by
  induction stages with
  | nil => exact ⟨(), _, .done⟩
  | cons stage stages ih =>
    obtain ⟨s, states⟩ := states
    cases h : stage.process msg s with
    | error e s' => exact ⟨_, _, .err h⟩
    | ok flow s' =>
      cases flow with
      | stop => exact ⟨_, _, .stop h⟩
      | next mid =>
        obtain ⟨states', ending, hruns⟩ := ih states mid
        exact ⟨_, _, .next h hruns⟩

end StageList

/-! ## Nested pipes -/

/-- The end of a run, with the states it leaves. -/
def ended {σ α : Type} (s : σ) : Except Fault α → EStateM.Result Fault σ α
  | .ok a => .ok a s
  | .error e => .error e s

namespace Pipe
variable {I Mid Out States : Type}

/-- The stages behind a pipe, one after the other. -/
def andThenAll : {Mid States : Type} → Pipe I Mid → StageList Mid Out States → Pipe I Out
  | _, _, pipe, .nil => pipe
  | _, _, pipe, .cons stage stages => (pipe.andThen stage).andThenAll stages

/-- The state of the nest is a state of the pipe with one for each stage behind it. -/
def split : {Mid States : Type} → (pipe : Pipe I Mid) → (stages : StageList Mid Out States) →
    (pipe.andThenAll stages).State ≃ pipe.State × States
  | _, _, pipe, .nil => (Equiv.prodPUnit pipe.State).symm
  | _, _, pipe, .cons stage stages =>
    ((pipe.andThen stage).split stages).trans (Equiv.prodAssoc pipe.State stage.State _)

variable {pipe : Pipe I Mid} {stage : Pipe Mid Out}

theorem andThen_next (ending : Except Fault (Flow Out))
    (h : pipe.process msg s = .ok (.next mid) s') (h' : stage.process mid t = ended t' ending) :
    (pipe.andThen stage).process msg (s, t) = ended (s', t') ending := by
  refine (bind_of_ok (zoom_of_ok (c := Component.fst) h)).trans ?_
  cases ending with
  | ok flow => exact zoom_of_ok (c := Component.snd) h'
  | error e => exact zoom_of_error (c := Component.snd) h'

theorem andThen_stop (h : pipe.process msg s = .ok .stop s') (t : stage.State) :
    (pipe.andThen stage).process msg (s, t) = .ok .stop (s', t) := by
  refine (bind_of_ok (zoom_of_ok (c := Component.fst) h)).trans ?_
  rfl

theorem andThen_error (h : pipe.process msg s = .error e s') (t : stage.State) :
    (pipe.andThen stage).process msg (s, t) = .error e (s', t) :=
  bind_of_error (zoom_of_error (c := Component.fst) h)

theorem andThenAll_stop {pipe : Pipe I Mid} {s s' : pipe.State}
    (stages : StageList Mid Out States) (h : pipe.process msg s = .ok .stop s') (states : States) :
    (pipe.andThenAll stages).process msg ((pipe.split stages).symm (s, states)) =
      .ok .stop ((pipe.split stages).symm (s', states)) := by
  induction stages with
  | nil => exact h
  | cons stage stages ih => exact ih (andThen_stop h states.1) states.2

theorem andThenAll_error {pipe : Pipe I Mid} {s s' : pipe.State}
    (stages : StageList Mid Out States) (h : pipe.process msg s = .error e s') (states : States) :
    (pipe.andThenAll stages).process msg ((pipe.split stages).symm (s, states)) =
      .error e ((pipe.split stages).symm (s', states)) := by
  induction stages with
  | nil => exact h
  | cons stage stages ih => exact ih (andThen_error h states.1) states.2

/-- The nest runs its stages one after the other. -/
theorem andThenAll_process {stages : StageList Mid Out States}
    (hruns : stages.Runs states mid states' ending) {pipe : Pipe I Mid} {s s' : pipe.State}
    (h : pipe.process msg s = .ok (.next mid) s') :
    (pipe.andThenAll stages).process msg ((pipe.split stages).symm (s, states)) =
      ended ((pipe.split stages).symm (s', states')) ending := by
  induction hruns with
  | done => exact h
  | next hstage _ ih => exact ih (andThen_next (.ok _) h hstage)
  | stop hstage => exact andThenAll_stop _ (andThen_next (.ok _) h hstage) _
  | err hstage => exact andThenAll_error _ (andThen_next (.error _) h hstage) _

end Pipe

/-- The states that the stages are added with. -/
def StageList.initial : {I Out States : Type} → StageList I Out States → States
  | _, _, _, .nil => ()
  | _, _, _, .cons stage stages => (stage.state, stages.initial)

/-- A pipe with such a state does what the stages do one after the other. -/
structure Composes {I Out σ States : Type} (stages : StageList I Out States) (state : σ)
    (process : I → Exec σ (Flow Out)) (view : σ ≃ States) : Prop where
  initial : view state = stages.initial
  runs : stages.Runs states msg states' ending →
    process msg (view.symm states) = ended (view.symm states') ending

namespace Pipe
variable {I Mid Out States : Type}

theorem split_state (pipe : Pipe I Mid) (stages : StageList Mid Out States) :
    pipe.split stages (pipe.andThenAll stages).state = (pipe.state, stages.initial) := by
  induction stages with
  | nil => rfl
  | cons stage stages ih =>
    exact congrArg (Equiv.prodAssoc pipe.State stage.State _) (ih (pipe.andThen stage))

/-- A nest that begins with `Identity` has a state for each stage and no other. -/
theorem composes (stages : StageList I Out States) :
    Composes stages (identity.andThenAll stages).state (identity.andThenAll stages).process
      ((identity.split stages).trans (Equiv.punitProd States)) where
  initial := congrArg Prod.snd (split_state identity stages)
  runs h := andThenAll_process h rfl

end Pipe

/-! ## The builder -/

namespace PipelineBuilder
variable {Item InOut CurrentIn Write CurrentOut Out S T U : Type}

/-- `inbound`, for one stage after the other -/
def InboundPhase.withInbounds : {I S : Type} → InboundPhase Item I → StageList I Out S →
    InboundPhase Item Out
  | _, _, self, .nil => self
  | _, _, self, .cons stage stages => (self.withInbound stage).withInbounds stages

/-- `business`, for one stage after the other -/
def BusinessPhase.withBusinesses : {I T : Type} → BusinessPhase Item InOut I → StageList I Out T →
    BusinessPhase Item InOut Out
  | _, _, self, .nil => self
  | _, _, self, .cons stage stages => (self.withBusiness stage).withBusinesses stages

/-- `business`, for one stage after the other if there is any, and `handler` -/
def InboundPhase.withBusinesses (self : InboundPhase Item InOut)
    (handler : StreamHandler Out Write) : StageList InOut Out T → Ready Item InOut Out Write Write
  | .nil => self.withHandler handler
  | .cons stage stages => ((self.withBusiness stage).withBusinesses stages).withHandler handler

/-- `outbound`, for one stage after the other -/
def Ready.withOutbounds : {I U : Type} → Ready Item InOut CurrentIn Write I → StageList I Out U →
    Ready Item InOut CurrentIn Write Out
  | _, _, self, .nil => self
  | _, _, self, .cons stage stages => (self.withOutbound stage).withOutbounds stages

/-- A pipeline built from these stages. -/
def build (codec : StreamDecoder Item) (inbound : StageList Item InOut S)
    (business : StageList InOut CurrentIn T) (handler : StreamHandler CurrentIn Write)
    (outbound : StageList Write CurrentOut U) : Ready Item InOut CurrentIn Write CurrentOut :=
  (((PipelineBuilder.codec codec).withInbounds inbound).withBusinesses handler
    business).withOutbounds outbound

theorem InboundPhase.withInbounds_eq {I : Type} (self : InboundPhase Item I)
    (stages : StageList I Out S) :
    self.withInbounds stages = ⟨self.codec, self.inbound.andThenAll stages⟩ := by
  induction stages with
  | nil => rfl
  | cons stage stages ih => exact ih (self.withInbound stage)

theorem BusinessPhase.withBusinesses_eq {I : Type} (self : BusinessPhase Item InOut I)
    (stages : StageList I Out T) :
    self.withBusinesses stages =
      ⟨self.codec, self.inbound, self.business.andThenAll stages⟩ := by
  induction stages with
  | nil => rfl
  | cons stage stages ih => exact ih (self.withBusiness stage)

theorem InboundPhase.withBusinesses_eq (self : InboundPhase Item InOut)
    (handler : StreamHandler Out Write) (stages : StageList InOut Out T) :
    self.withBusinesses handler stages =
      ⟨self.codec, self.inbound, Pipe.identity.andThenAll stages, handler, .identity⟩ := by
  cases stages with
  | nil => rfl
  | cons stage stages =>
    rw [withBusinesses, BusinessPhase.withBusinesses_eq]
    rfl

theorem Ready.withOutbounds_eq {I : Type} (self : Ready Item InOut CurrentIn Write I)
    (stages : StageList I Out U) :
    self.withOutbounds stages =
      ⟨self.codec, self.inbound, self.business, self.handler, self.outbound.andThenAll stages⟩ := by
  induction stages with
  | nil => rfl
  | cons stage stages ih => exact ih (self.withOutbound stage)

/-- Every direction is a nest of its stages, in the order in which they were added. -/
theorem build_eq (codec : StreamDecoder Item) (inbound : StageList Item InOut S)
    (business : StageList InOut CurrentIn T) (handler : StreamHandler CurrentIn Write)
    (outbound : StageList Write CurrentOut U) :
    build codec inbound business handler outbound =
      ⟨codec, Pipe.identity.andThenAll inbound, Pipe.identity.andThenAll business, handler,
        Pipe.identity.andThenAll outbound⟩ := by
  rw [build, Ready.withOutbounds_eq, InboundPhase.withBusinesses_eq, InboundPhase.withInbounds_eq]
  rfl

end PipelineBuilder

/-- The handler never waits for a flush. It may ask for one. -/
def HandlerFuture.AwaitsNoFlush {H M : Type} : HandlerFuture H M → Prop
  | .ready _ _ => True
  | .panic => True
  | .write _ rest => rest.AwaitsNoFlush
  | .pushFlush rest => ∀ done, (rest done).AwaitsNoFlush
  | .awaitFlush _ _ => False
  | .suspend rest => rest.AwaitsNoFlush
  | .close rest => rest.AwaitsNoFlush

/-! ## An inbound message -/

section Delivers
variable {Item InOut CurrentIn S T : Type}

/-- What the inbound stages and behind them the business stages do with a message. -/
inductive Delivers (inbound : StageList Item InOut S) (business : StageList InOut CurrentIn T) :
    S → T → Item → S → T → Except Fault (Flow CurrentIn) → Prop
  | business : inbound.Runs states msg states' (.ok (.next mid)) →
      business.Runs rest mid rest' ending →
      Delivers inbound business states rest msg states' rest' ending
  | stop : inbound.Runs states msg states' (.ok .stop) →
      Delivers inbound business states rest msg states' rest (.ok .stop)
  | err : inbound.Runs states msg states' (.error e) →
      Delivers inbound business states rest msg states' rest (.error e)

theorem exists_delivers (inbound : StageList Item InOut S) (business : StageList InOut CurrentIn T)
    (states : S) (rest : T) (msg : Item) :
    ∃ states' rest' ending, Delivers inbound business states rest msg states' rest' ending := by
  obtain ⟨states', ending, hruns⟩ := inbound.exists_runs states msg
  match ending, hruns with
  | .error e, hruns => exact ⟨_, _, _, .err hruns⟩
  | .ok .stop, hruns => exact ⟨_, _, _, .stop hruns⟩
  | .ok (.next mid), hruns =>
    obtain ⟨rest', ending, hrest⟩ := business.exists_runs rest mid
    exact ⟨_, _, _, .business hruns hrest⟩

end Delivers

/-- The handler is called on what every stage has handed on. A `Stop` is `Ok`, and an `Err` is
returned as it is. -/
def afterStages {σ V : Type} (call : V → Traced (Exit Error) σ Unit) :
    Except Fault (Flow V) → Traced (Exit Error) σ Unit
  | .ok (.next v) => call v
  | .ok .stop => pure ()
  | .error e => fail e.exit

theorem result_await_of_ok {σ α : Type} {x : Exec σ α} {s s' : σ} {a : α} (h : x s = .ok a s') :
    (await x).result s = .ok a s' :=
  result_mapError_of_ok h

theorem result_await_of_error {σ α : Type} {x : Exec σ α} {s s' : σ} (h : x s = .error e s') :
    (await x).result s = .error e.exit s' :=
  result_mapError_of_error h

namespace StreamState
variable {P : StreamStages}

/-- The connection with other states of its inbound and business stages. -/
def setStages (inbound : P.InP) (business : P.BizP) (s : StreamState P) : StreamState P :=
  { s with pipeline := { s.pipeline with inbound, business } }

/-- What `process_inbound` and `process_inbound_flushable` have in common. -/
def throughStages (msg : P.Item) (call : P.CurrentIn → Traced (Exit Error) (StreamState P) Unit) :
    Traced (Exit Error) (StreamState P) Unit := do
  match ← await (EStateM.zoom inboundPart (P.inbound msg)) with
  | .stop => return ()
  | .next msg =>
    match ← await (EStateM.zoom businessPart (P.business msg)) with
    | .stop => return ()
    | .next msg => call msg

theorem processInbound_eq (msg : P.Item) (s : StreamState P) :
    (processInbound msg).result s = (throughStages msg readHandler).result s :=
  rfl

theorem processInboundFlushable_eq (msg : P.Item) (s : StreamState P) :
    (processInboundFlushable msg).result s = (throughStages msg runHandler).result (s.hand msg) :=
  result_bind_of_ok (result_step _ _)

section Stages
variable {S T : Type} {inbound : StageList P.Item P.InOut S}
  {business : StageList P.InOut P.CurrentIn T} {inboundStates : P.InP ≃ S}
  {businessStates : P.BizP ≃ T} {i : P.InP} {b : P.BizP}
  (hinbound : Composes inbound i P.inbound inboundStates)
  (hbusiness : Composes business b P.business businessStates)
include hinbound hbusiness

theorem throughStages_result {s : StreamState P}
    (h : Delivers inbound business (inboundStates s.pipeline.inbound)
      (businessStates s.pipeline.business) msg states rest ending)
    (call : P.CurrentIn → Traced (Exit Error) (StreamState P) Unit) :
    (throughStages msg call).result s =
      (afterStages call ending).result
        (s.setStages (inboundStates.symm states) (businessStates.symm rest)) := by
  generalize hin : inboundStates s.pipeline.inbound = before at h
  generalize hbiz : businessStates s.pipeline.business = before' at h
  have hin := (Equiv.symm_apply_eq inboundStates).2 hin.symm
  have hbiz := (Equiv.symm_apply_eq businessStates).2 hbiz.symm
  cases h with
  | business hruns hrest =>
    have hfirst := hinbound.runs hruns
    have hsecond := hbusiness.runs hrest
    rw [hin] at hfirst
    rw [hbiz] at hsecond
    rw [throughStages, result_bind_of_ok (result_await_of_ok (zoom_of_ok (c := inboundPart) hfirst))]
    dsimp only
    let s₁ := inboundPart.set (inboundStates.symm states) s
    change P.business _ (businessPart.get s₁) = _ at hsecond
    cases ending with
    | error e => exact result_bind_of_error (result_await_of_error (zoom_of_error hsecond))
    | ok flow =>
      rw [result_bind_of_ok (result_await_of_ok (zoom_of_ok hsecond))]
      cases flow <;> rfl
  | stop hruns =>
    have hfirst := hinbound.runs hruns
    rw [hin] at hfirst
    rw [hbiz]
    exact result_bind_of_ok (result_await_of_ok (zoom_of_ok (c := inboundPart) hfirst))
  | err hruns =>
    have hfirst := hinbound.runs hruns
    rw [hin] at hfirst
    rw [hbiz]
    exact result_bind_of_error (result_await_of_error (zoom_of_error (c := inboundPart) hfirst))

end Stages

/-! ## What the handler leaves to encode -/

/-- The messages that reached the outbound stages in between, none of which was refused. -/
structure Through (s t : StreamState P) (encoded : List (Processed P)) : Prop where
  processed : t.history.processed = s.history.processed ++ encoded
  accepted : ∀ p ∈ encoded, p.Accepted

/-- The messages of these commands went through the outbound stages, in order, up to the first that
was refused or up to a flush that failed. -/
inductive Cut (s t : StreamState P) (commands : List (StreamOutboxCommand P.Write)) : Prop
  | refused (encoded : List (Processed P)) :
      t.history.processed = s.history.processed ++ (encoded ++ [p]) →
      (encoded ++ [p]).map (·.msg) <+: commands.filterMap (·.msg?) →
      (∀ q ∈ encoded, q.Accepted) → ¬p.Accepted → Cut s t commands
  | unflushed (encoded : List (Processed P)) (sent : List (StreamOutboxCommand P.Write))
      (done : Sender) : s.Through t encoded →
      encoded.map (·.msg) = sent.filterMap (·.msg?) → sent ++ [.flush done] <+: commands →
      s.stream.faults ≠ [] → Cut s t commands

/-- The messages of these commands went through the outbound stages, in order. -/
structure Encoded (s t : StreamState P) (commands : List (StreamOutboxCommand P.Write)) : Prop where
  through : ∃ encoded, s.Through t encoded ∧
    encoded.map (·.msg) = commands.filterMap (·.msg?)
  reliable : s.stream.faults = [] → t.stream.faults = []

/-- These commands were carried out. -/
structure Carried (s t : StreamState P) (commands : List (StreamOutboxCommand P.Write)) : Prop
    extends Encoded s t commands where
  outbox : t.ctx.outbox = s.ctx.outbox
  flushes : t.ctx.flushes = s.ctx.flushes

variable {s t u : StreamState P} {commands commands' : List (StreamOutboxCommand P.Write)}

theorem Through.nil (h : t.history.processed = s.history.processed) : s.Through t [] where
  processed := h.trans (List.append_nil _).symm
  accepted := nofun

theorem Through.trans (h : s.Through t encoded) (h' : t.Through u encoded') :
    s.Through u (encoded ++ encoded') where
  processed := by rw [h'.processed, h.processed, List.append_assoc]
  accepted := List.forall_mem_append.2 ⟨h.accepted, h'.accepted⟩

/-- Of the state behind, only the messages that reached the outbound stages and the socket matter. -/
theorem Encoded.congr (h : s.Encoded t commands)
    (hprocessed : u.history.processed = t.history.processed) (hstream : u.stream = t.stream) :
    s.Encoded u commands where
  through := by
    obtain ⟨encoded, ht, hmsg⟩ := h.through
    exact ⟨encoded, ⟨hprocessed.trans ht.processed, ht.accepted⟩, hmsg⟩
  reliable := by
    rw [hstream]
    exact h.reliable

theorem Encoded.nil (hprocessed : t.history.processed = s.history.processed)
    (hreliable : s.stream.faults = [] → t.stream.faults = []) : s.Encoded t [] where
  through := ⟨[], .nil hprocessed, rfl⟩
  reliable := hreliable

theorem Cut.congr (h : s.Cut t commands)
    (hprocessed : u.history.processed = t.history.processed) : s.Cut u commands := by
  cases h with
  | refused encoded ht hmsg haccepted hrefused =>
    exact .refused encoded (hprocessed.trans ht) hmsg haccepted hrefused
  | unflushed encoded sent done ht hmsg hflush hfaults =>
    have hu : s.Through u encoded := ⟨hprocessed.trans ht.processed, ht.accepted⟩
    exact .unflushed encoded sent done hu hmsg hflush hfaults

theorem Encoded.trans (h : s.Encoded t commands) (h' : t.Encoded u commands') :
    s.Encoded u (commands ++ commands') where
  through := by
    obtain ⟨encoded, hs, hmsg⟩ := h.through
    obtain ⟨encoded', ht, hmsg'⟩ := h'.through
    refine ⟨encoded ++ encoded', hs.trans ht, ?_⟩
    rw [List.map_append, List.filterMap_append, hmsg, hmsg']
  reliable hs := h'.reliable (h.reliable hs)

theorem Encoded.cut (h : s.Encoded t commands) (h' : t.Cut u commands') :
    s.Cut u (commands ++ commands') := by
  obtain ⟨encoded, hs, hmsg⟩ := h.through
  cases h' with
  | refused encoded' ht hleading haccepted hrefused =>
    refine .refused (encoded ++ encoded') ?_ ?_
      (List.forall_mem_append.2 ⟨hs.accepted, haccepted⟩) hrefused
    · rw [ht, hs.processed, List.append_assoc, List.append_assoc]
    · rw [List.append_assoc, List.map_append, List.filterMap_append, hmsg]
      exact (List.prefix_append_right_inj _).2 hleading
  | unflushed encoded' sent done ht hsent hflush hfaults =>
    refine .unflushed (encoded ++ encoded') (commands ++ sent) done (hs.trans ht) ?_ ?_
      (mt h.reliable hfaults)
    · rw [List.map_append, List.filterMap_append, hmsg, hsent]
    · rw [List.append_assoc]
      exact (List.prefix_append_right_inj _).2 hflush

theorem Carried.trans (h : s.Carried t commands) (h' : t.Carried u commands') :
    s.Carried u (commands ++ commands') :=
  ⟨h.toEncoded.trans h'.toEncoded, h'.outbox.trans h.outbox, h'.flushes.trans h.flushes⟩

theorem Cut.mono (h : s.Cut t commands) (hleading : commands <+: commands') : s.Cut t commands' := by
  obtain ⟨more, rfl⟩ := hleading
  have hmore : commands.filterMap (·.msg?) <+: (commands ++ more).filterMap (·.msg?) := by
    rw [List.filterMap_append]
    exact List.prefix_append _ _
  cases h with
  | refused encoded ht hmsg haccepted hrefused =>
    exact .refused encoded ht (hmsg.trans hmore) haccepted hrefused
  | unflushed encoded sent done ht hmsg hflush hfaults =>
    exact .unflushed encoded sent done ht hmsg (hflush.trans (List.prefix_append _ _)) hfaults

theorem outboundFrame_carries (msg : P.Write) (s : StreamState P) :
    (outboundFrame msg s).Holds (fun _ t => s.Carried t [.write msg])
      fun _ t => s.Cut t [.write msg] := by
  let p : Processed P := ⟨s.pipeline.outbound, s.pipeline.codec, s.writeBuf, msg⟩
  change (EStateM.zoom outboundPart (P.outboundFrame msg) (s.processing msg)).Holds _ _
  unfold EStateM.zoom
  rw [show P.outboundFrame msg (outboundPart.get (s.processing msg)) = p.run from rfl]
  cases hrun : p.run with
  | ok encoded t =>
    have haccepted : ∀ q ∈ [p], q.Accepted := List.forall_mem_singleton.2 ⟨_, _, hrun⟩
    exact ⟨⟨⟨[p], ⟨rfl, haccepted⟩, rfl⟩, id⟩, rfl, rfl⟩
  | error e t =>
    refine .refused [] rfl List.prefix_rfl nofun fun haccepted => ?_
    obtain ⟨_, _, hok⟩ := haccepted
    cases hrun.symm.trans hok

theorem encodeOutbound_carries (msg : P.Write) (s : StreamState P) :
    (encodeOutbound msg s).Holds (fun _ t => s.Carried t [.write msg])
      fun _ t => s.Cut t [.write msg] :=
  encodeOutbound_holds (fun _ ht => ⟨ht.toEncoded.congr rfl rfl, ht.outbox, ht.flushes⟩)
    (outboundFrame_carries msg s)

theorem flushWriteBuf_carries (s : StreamState P) :
    (flushWriteBuf s).Holds (fun _ t => s.Carried t [])
      fun _ t => t.history = s.history ∧ s.stream.faults ≠ [] := by
  rw [flushWriteBuf, get_bind]
  by_cases hempty : s.writeBuf = []
  · rw [if_neg (not_not.2 hempty)]
    exact ⟨.nil rfl id, rfl, rfl⟩
  · rw [if_pos hempty]
    cases hx : TcpStream.writeAll s.writeBuf s.stream with
    | ok _ stream =>
      rw [bind_of_ok (zoom_of_ok (c := streamPart) hx)]
      refine ⟨.nil rfl fun hreliable => ?_, rfl, rfl⟩
      cases hx.symm.trans (TcpStream.writeAll_reliable hreliable _)
      exact hreliable
    | error e stream =>
      rw [bind_of_error (zoom_of_error (c := streamPart) hx)]
      refine ⟨rfl, fun hreliable => ?_⟩
      cases hx.symm.trans (TcpStream.writeAll_reliable hreliable _)

/-- A flush carries nothing out, and its answer changes no message. -/
theorem Carried.answer (h : s.Carried t []) {done : Sender} {ack : Except Error Unit} :
    s.Carried (t.answer done ack) [.flush done] where
  through := by
    obtain ⟨encoded, ht, hmsg⟩ := h.through
    exact ⟨encoded, ⟨ht.processed, ht.accepted⟩, hmsg⟩
  reliable := h.reliable
  outbox := h.outbox
  flushes := h.flushes

theorem Cut.flush (done : Sender) (h : t.history = s.history ∧ s.stream.faults ≠ []) :
    s.Cut t [.flush done] :=
  .unflushed [] [] done (.nil (congrArg History.processed h.1)) rfl List.prefix_rfl h.2

/-- A program that carries messages to the encoder, from this state. -/
abbrev Carries {α : Type} (s : StreamState P) (x : Traced (Exit Error) (StreamState P) α)
    (Q : α → StreamState P → Prop) (R : StreamState P → Prop) : Prop :=
  Triple (fun _ => True) (· = s) x Q fun _ => R

theorem carries_await {α : Type} {x : Exec (StreamState P) α} {Q : α → StreamState P → Prop}
    {R : StreamState P → Prop} (h : (x s).Holds Q fun _ => R) : Carries s (await x) Q R := by
  apply await_triple
  rintro _ rfl
  exact h.mono (fun _ _ ht => ⟨trivial, ht⟩) fun _ _ ht => ⟨trivial, ht⟩

theorem drainCommands_carries (commands : List (StreamOutboxCommand P.Write)) (s : StreamState P) :
    Carries s (drainCommands commands) (fun _ t => s.Carried t commands)
      fun t => s.Cut t commands := by
  have hdrain := drainCommands_triple (I := fun _ => True) (R := fun _ t => s.Cut t commands)
    (J := fun rest t => ∃ sent, sent ++ rest = commands ∧ s.Carried t sent) ?_ ?_ commands
  · refine hdrain.mono ?_ ?_ fun _ _ ht => ht
    · rintro t rfl
      exact ⟨[], rfl, .nil rfl id, rfl, rfl⟩
    · rintro _ t ⟨sent, rfl, ht⟩
      rwa [List.append_nil]
  · intro msg rest
    apply await_triple
    rintro t ⟨sent, rfl, ht⟩
    refine (encodeOutbound_carries msg t).mono (fun _ u hu => ?_) fun _ u hu => ?_
    · exact ⟨trivial, sent ++ [.write msg], List.append_assoc _ _ _, ht.trans hu⟩
    · refine ⟨trivial, (ht.toEncoded.cut hu).mono ⟨rest, List.append_assoc _ _ _⟩⟩
  · rintro done rest t ⟨sent, rfl, ht⟩
    refine (flushWriteBuf_carries t).mono (fun _ u hu => ?_) fun _ u hu => ?_
    · exact ⟨trivial, trivial, sent ++ [.flush done], List.append_assoc _ _ _, ht.trans hu.answer⟩
    · have hcut := (ht.toEncoded.cut (Cut.flush done hu)).mono ⟨rest, List.append_assoc _ _ _⟩
      exact ⟨trivial, hcut, fun _ => ⟨trivial, hcut.congr rfl⟩⟩

/-! ## A handler with and without a drained outbox -/

/-- The connection `u` is where `t` is, but for what was drained from its outbox since `base`. -/
structure Behind (base t u : StreamState P) : Prop where
  drained : ∃ commands, t.ctx.outbox = commands ++ u.ctx.outbox ∧ base.Encoded u commands
  flushes : t.ctx.flushes = u.ctx.flushes

variable {base : StreamState P}

theorem Behind.push (h : base.Behind t u) {t' u' : StreamState P}
    (ht : t'.ctx.outbox = t.ctx.outbox ++ commands) (hu : u'.ctx.outbox = u.ctx.outbox ++ commands)
    (hflushes : t'.ctx.flushes = u'.ctx.flushes)
    (hprocessed : u'.history.processed = u.history.processed) (hstream : u'.stream = u.stream) :
    base.Behind t' u' := by
  obtain ⟨drained, houtbox, hencoded⟩ := h.drained
  refine ⟨⟨drained, ?_, hencoded.congr hprocessed hstream⟩, hflushes⟩
  rw [ht, houtbox, hu, List.append_assoc]

/-- The connection with an empty outbox. -/
def taken (s : StreamState P) : StreamState P := ctxPart.set { s.ctx with outbox := [] } s

theorem takeCommands_carries (s : StreamState P) (R : StreamState P → Prop) :
    Carries s (await (EStateM.zoom ctxPart Context.takeCommands))
      (fun commands t => commands = s.ctx.outbox ∧ t = s.taken) R :=
  carries_await ⟨rfl, rfl⟩

/-- The commands of the outbox are carried out, beside a handler whose outbox keeps them. -/
theorem Behind.drainCommands (h : base.Behind t u) :
    Carries u.taken (drainCommands u.ctx.outbox)
      (fun _ s => base.Behind t s ∧ base.Encoded s t.ctx.outbox)
      fun s => base.Cut s t.ctx.outbox := by
  obtain ⟨drained, houtbox, hencoded⟩ := h.drained
  have htaken : base.Encoded u.taken drained := hencoded.congr rfl rfl
  refine (drainCommands_carries u.ctx.outbox u.taken).mono (fun _ hs => hs) ?_ ?_
  · intro _ s hs
    have hall := htaken.trans hs.toEncoded
    rw [← houtbox] at hall
    refine ⟨⟨⟨t.ctx.outbox, ?_, hall⟩, h.flushes.trans hs.flushes.symm⟩, hall⟩
    rw [hs.outbox]
    exact (List.append_nil _).symm
  · intro _ s hs
    rw [houtbox]
    exact htaken.cut hs

theorem drainStreamOutbox_behind (h : base.Behind t u) :
    Carries u (drainStreamOutbox false) (fun _ => base.Behind t)
      fun s => base.Cut s t.ctx.outbox := by
  apply Triple.bind (takeCommands_carries u _)
  rintro commands s ⟨rfl, rfl⟩
  have hpure : Triple (fun _ => True) (fun s => base.Behind t s ∧ base.Encoded s t.ctx.outbox)
      (pure () : Traced (Exit Error) (StreamState P) Unit) (fun _ => base.Behind t)
      fun _ s => base.Cut s t.ctx.outbox :=
    Triple.pure fun _ hs => hs.1
  exact Triple.bind h.drainCommands (fun _ => hpure) u.taken rfl

/-- The messages of these commands went through the outbound stages, in order: all of them, or all
up to one that was refused or a flush that failed. -/
inductive Drained (s t : StreamState P) (commands : List (StreamOutboxCommand P.Write)) : Prop
  | all : s.Through t encoded →
      encoded.map (·.msg) = commands.filterMap (·.msg?) → Drained s t commands
  | cut : s.Cut t commands → Drained s t commands

theorem drainStreamOutbox_drains (h : base.Behind t u) :
    Carries u (drainStreamOutbox true) (fun _ s => base.Drained s t.ctx.outbox)
      fun s => base.Drained s t.ctx.outbox := by
  apply Triple.bind (takeCommands_carries u _)
  rintro commands s ⟨rfl, rfl⟩
  have hdrain := h.drainCommands.mono (fun _ hs => hs) (fun _ _ hs => hs) fun _ _ => Drained.cut
  refine Triple.bind hdrain (fun _ s hs => ?_) u.taken rfl
  obtain ⟨encoded, hs, hmsg⟩ := hs.2.through
  have hkeep (t' : StreamState P) (ht : t'.history.processed = s.history.processed) :
      base.Drained t' t.ctx.outbox := .all ⟨ht.trans hs.processed, hs.accepted⟩ hmsg
  refine carries_await ((flushWriteBuf_carries s).mono (fun _ t ht => ?_) fun _ t ht => ?_) s rfl
  · obtain ⟨encoded', ht, hmsg'⟩ := ht.through
    rw [List.map_eq_nil_iff.1 hmsg'] at ht
    exact hkeep t (ht.processed.trans (List.append_nil _))
  · exact hkeep t (congrArg History.processed ht.1)

/-- Without a drain the outbox only grows. -/
theorem unflushed_grows (future : HandlerFuture P.H P.Write) (s : StreamState P) :
    s.ctx.outbox <+: ((unflushedRuntime.pollHandler future).result s).final.ctx.outbox := by
  have hgrows : Triple (fun _ => True) (fun t => s.ctx.outbox <+: t.ctx.outbox)
      (unflushedRuntime.pollHandler future) (fun _ t => s.ctx.outbox <+: t.ctx.outbox)
      fun _ t => s.ctx.outbox <+: t.ctx.outbox := by
    apply unflushedRuntime.pollHandler_triple
    · exact fun _ _ => trivial
    · exact fun msg t ht => ht.trans (List.prefix_append _ _)
    · exact await_triple fun t ht => ⟨trivial, ht.trans (List.prefix_append _ _)⟩
    · exact fun _ ht => ht
    · exact Triple.pure fun _ ht => ht
    · exact fun _ ht => ht
    · exact fun _ ht => ht
  exact Result.holds_final.1 (hgrows s List.prefix_rfl).2

/-- How a handler ends without a drained outbox, and with one. -/
inductive Follows {α : Type} (base : StreamState P) :
    EStateM.Result (Exit Error) (StreamState P) α →
      EStateM.Result (Exit Error) (StreamState P) α → Prop
  | ok {t u : StreamState P} : base.Behind t u → Follows base (.ok a t) (.ok a u)
  | panic {t u : StreamState P} : Follows base (.error .panic t) (.error .panic u)
  | cut {u : StreamState P} : base.Cut u r.final.ctx.outbox → Follows base r (.error e u)

theorem unflushed_pending (s : StreamState P) :
    (unflushedRuntime (P := P)).pending.result s = .ok () s := by
  rw [HandlerRuntime.pending, result_look_bind]
  split <;> rfl

theorem pending_behind (h : base.Behind t u) :
    ((handlerRuntime (P := P)).pending.result u).Holds (fun _ => base.Behind t)
      fun _ s => base.Cut s t.ctx.outbox := by
  rw [HandlerRuntime.pending, result_look_bind]
  split
  · exact (drainStreamOutbox_behind h u rfl).2
  · exact h

theorem pollHandler_follows {future : HandlerFuture P.H P.Write} (hfuture : future.AwaitsNoFlush)
    (h : base.Behind t u) :
    Follows base ((unflushedRuntime.pollHandler future).result t)
      ((handlerRuntime.pollHandler future).result u) := by
  induction future generalizing t u with
  | ready result handler => exact .ok h
  | panic => exact .panic
  | write msg rest ih =>
    change Follows base ((unflushedRuntime.pollHandler rest).result (t.pushWrite msg))
      ((handlerRuntime.pollHandler rest).result (u.pushWrite msg))
    exact ih hfuture (h.push (Eq.refl (t.ctx.outbox ++ [.write msg])) rfl h.flushes rfl rfl)
  | pushFlush rest ih =>
    have hpush (s : StreamState P) : ∃ s', (await (handlerRuntime (P := P)).pushFlush).result s =
        .ok s.ctx.flushes s' ∧ s'.ctx.outbox = s.ctx.outbox ++ [.flush s.ctx.flushes] ∧
        s'.ctx.flushes = s.ctx.flushes + 1 ∧ s'.history = s.history ∧ s'.stream = s.stream :=
      ⟨_, rfl, rfl, rfl, rfl, rfl⟩
    obtain ⟨t', ht, houtbox, hflushes, -, -⟩ := hpush t
    obtain ⟨u', hu, houtbox', hflushes', hhistory, hstream⟩ := hpush u
    change Follows base ((await handlerRuntime.pushFlush >>= fun done =>
        unflushedRuntime.pollHandler (rest done)).result t)
      ((await handlerRuntime.pushFlush >>= fun done =>
        handlerRuntime.pollHandler (rest done)).result u)
    rw [result_bind_of_ok ht, result_bind_of_ok hu, h.flushes]
    rw [h.flushes] at houtbox hflushes
    exact ih _ (hfuture _) (h.push houtbox houtbox' (hflushes.trans hflushes'.symm)
      (congrArg History.processed hhistory) hstream)
  | awaitFlush done rest ih => exact hfuture.elim
  | suspend rest ih =>
    have hpending := pending_behind h
    rw [HandlerRuntime.pollHandler, HandlerRuntime.pollHandler, result_bind_of_ok (unflushed_pending t)]
    cases hu : (handlerRuntime (P := P)).pending.result u with
    | ok _ s =>
      rw [hu] at hpending
      rw [result_bind_of_ok hu]
      exact ih hfuture hpending
    | error e s =>
      rw [hu] at hpending
      rw [result_bind_of_error hu]
      exact .cut (Cut.mono hpending (unflushed_grows rest t))
  | close rest ih =>
    change Follows base
      ((unflushedRuntime.pollHandler rest).result (ctxPart.set t.ctx.close t))
      ((handlerRuntime.pollHandler rest).result (ctxPart.set u.ctx.close u))
    have hclose (s : StreamState P) : s.ctx.close.outbox = s.ctx.outbox ++ [] :=
      (List.append_nil _).symm
    exact ih hfuture (h.push (hclose t) (hclose u) h.flushes rfl rfl)

/-- The handler is put back, and nothing else changes. -/
theorem readHandler_final (msg : P.CurrentIn) (s : StreamState P) :
    ((readHandler msg).result s).final.ctx =
      ((unflushedRuntime.pollHandler (P.read s.pipeline.handler msg)).result s).final.ctx := by
  rw [readHandler, result_look_bind]
  cases h : (unflushedRuntime.pollHandler (P.read s.pipeline.handler msg)).result s with
  | ok polled t =>
    obtain ⟨result, handler⟩ := polled
    rw [result_bind_of_ok h]
    cases result <;> rfl
  | error e t =>
    rw [result_bind_of_error h]
    rfl

/-- What a handler that never waits for a flush leaves in its outbox is what is encoded for it, unless
it panics. -/
theorem runHandler_drains {msg : P.CurrentIn} (h : base.Behind t u)
    (hhandler : u.pipeline.handler = t.pipeline.handler)
    (hread : (P.read t.pipeline.handler msg).AwaitsNoFlush) :
    (∃ t' u', (readHandler msg).result t = .error .panic t' ∧
        (runHandler msg).result u = .error .panic u') ∨
      base.Drained ((runHandler msg).result u).final
        ((readHandler msg).result t).final.ctx.outbox := by
  rw [readHandler_final]
  have hfollows := pollHandler_follows hread h
  rw [readHandler, runHandler, result_look_bind, result_look_bind, hhandler]
  generalize hplain : (unflushedRuntime.pollHandler (P.read t.pipeline.handler msg)).result t = plain
    at hfollows ⊢
  generalize hflushed : (handlerRuntime.pollHandler (P.read t.pipeline.handler msg)).result u =
    flushed at hfollows
  cases hfollows with
  | @ok polled t' u' hbehind =>
    right
    obtain ⟨result, handler⟩ := polled
    rw [result_bind_of_ok hflushed]
    change base.Drained ((drainStreamOutbox true >>= fun _ => propagate result).result
      (setHandler handler u')).final t'.ctx.outbox
    have hkeep (s : StreamState P) : s.ctx.outbox = s.ctx.outbox ++ [] := (List.append_nil _).symm
    have hset : base.Behind t' (setHandler handler u') :=
      hbehind.push (hkeep t') (hkeep u') hbehind.flushes rfl rfl
    have hdrain := (drainStreamOutbox_drains hset _ rfl).2
    cases hx : (drainStreamOutbox true).result (setHandler handler u') with
    | ok _ s =>
      rw [hx] at hdrain
      rw [result_bind_of_ok hx]
      cases result <;> exact hdrain
    | error e s =>
      rw [hx] at hdrain
      rw [result_bind_of_error hx]
      exact hdrain
  | panic =>
    rw [result_bind_of_error hplain, result_bind_of_error hflushed]
    exact .inl ⟨_, _, rfl, rfl⟩
  | cut hcut =>
    rw [result_bind_of_error hflushed]
    exact .inr (.cut hcut)

/-! ## An outbound message -/

/-- The encoder and the buffer it appends to. -/
def encoderPart : Component (StreamState P) (P.C × BytesMut) :=
  ⟨fun s => (s.pipeline.codec, s.writeBuf),
    fun (codec, writeBuf) s => { s with pipeline := { s.pipeline with codec }, writeBuf }⟩

/-- The connection with another state of its outbound stages. -/
def setOutbound (outbound : P.OutP) (s : StreamState P) : StreamState P :=
  { s with pipeline := { s.pipeline with outbound } }

/-- `codec.encode` is called on what every stage has handed on, and `encoded` runs behind it. -/
def encodeStaged (encoded : StreamState P → StreamState P) :
    Except Fault (Flow P.CurrentOut) → Exec (StreamState P) Unit
  | .ok (.next out) => do
    EStateM.zoom encoderPart (P.encode out)
    modify encoded
  | .ok .stop => pure ()
  | .error e => throw e

section Outbound
variable {U : Type} {outbound : StageList P.Write P.CurrentOut U} {outboundStates : P.OutP ≃ U}
  {o : P.OutP} (houtbound : Composes outbound o P.outbound outboundStates)
include houtbound

theorem outboundFrame_result {s : StreamState P}
    (h : outbound.Runs (outboundStates s.pipeline.outbound) msg states ending)
    (encoded : StreamState P → StreamState P) :
    (do if ← outboundFrame msg then modify encoded) s =
      encodeStaged encoded ending ((s.processing msg).setOutbound (outboundStates.symm states)) := by
  have hstages := houtbound.runs h
  rw [Equiv.symm_apply_apply] at hstages
  let io := (s.pipeline.outbound, s.pipeline.codec, s.writeBuf)
  cases ending with
  | error e =>
    have hframe : P.outboundFrame msg io = .error e (outboundStates.symm states, io.2) :=
      bind_of_error (zoom_of_error (c := Component.fst) hstages)
    have hzoom := zoom_of_error (c := outboundPart) (s := s.processing msg) hframe
    exact bind_of_error hzoom
  | ok flow =>
    have hstaged := zoom_of_ok (c := Component.fst) (s := io) hstages
    cases flow with
    | stop =>
      have hframe : P.outboundFrame msg io = .ok false (outboundStates.symm states, io.2) :=
        bind_of_ok hstaged
      have hzoom := zoom_of_ok (c := outboundPart) (s := s.processing msg) hframe
      exact bind_of_ok hzoom
    | next out =>
      cases hencode : P.encode out io.2 with
      | ok _ written =>
        have hwritten := zoom_of_ok (c := Component.snd)
          (s := (outboundStates.symm states, io.2)) hencode
        have hframe : P.outboundFrame msg io = .ok true (outboundStates.symm states, written) :=
          (bind_of_ok hstaged).trans (bind_of_ok hwritten)
        have hzoom := zoom_of_ok (c := outboundPart) (s := s.processing msg) hframe
        have hencoder := zoom_of_ok (c := encoderPart)
          (s := (s.processing msg).setOutbound (outboundStates.symm states)) hencode
        rw [encodeStaged, bind_of_ok hencoder]
        exact bind_of_ok hzoom
      | error e written =>
        have hwritten := zoom_of_error (c := Component.snd)
          (s := (outboundStates.symm states, io.2)) hencode
        have hframe : P.outboundFrame msg io = .error e (outboundStates.symm states, written) :=
          (bind_of_ok hstaged).trans (bind_of_error hwritten)
        have hzoom := zoom_of_error (c := outboundPart) (s := s.processing msg) hframe
        have hencoder := zoom_of_error (c := encoderPart)
          (s := (s.processing msg).setOutbound (outboundStates.symm states)) hencode
        rw [encodeStaged, bind_of_error hencoder]
        exact bind_of_error hzoom

end Outbound

/-- What becomes of a message whose stages end in this way and in these states. -/
structure Delivered (s : StreamState P) (msg : P.Item) (inbound : P.InP) (business : P.BizP)
    (ending : Except Fault (Flow P.CurrentIn)) : Prop where
  unflushed : (processInbound msg).result s =
    (afterStages readHandler ending).result (s.setStages inbound business)
  flushable : (processInboundFlushable msg).result s =
    (afterStages runHandler ending).result ((s.hand msg).setStages inbound business)
  drained : ending = .ok (.next v) → (P.read s.pipeline.handler v).AwaitsNoFlush →
    (∃ t u, (processInbound msg).result s = .error .panic t ∧
        (processInboundFlushable msg).result s = .error .panic u) ∨
      s.Drained ((processInboundFlushable msg).result s).final
        ((processInbound msg).result s).final.ctx.outbox

/-- What becomes of an outgoing message whose stages end in this way and in this state. -/
structure Sent (s : StreamState P) (msg : P.Write) (outbound : P.OutP)
    (ending : Except Fault (Flow P.CurrentOut)) : Prop where
  processOutbound : processOutbound msg s =
    encodeStaged id ending ((s.processing msg).setOutbound outbound)
  encodeOutbound : encodeOutbound msg s =
    encodeStaged (count .addFrameWritten) ending ((s.processing msg).setOutbound outbound)

/-- Every message goes through the stages of its direction one after the other. -/
structure InOrder {S T U : Type} (inbound : StageList P.Item P.InOut S)
    (business : StageList P.InOut P.CurrentIn T) (outbound : StageList P.Write P.CurrentOut U)
    (inboundStates : P.InP ≃ S) (businessStates : P.BizP ≃ T) (outboundStates : P.OutP ≃ U) :
    Prop where
  inbound : ∀ (s : StreamState P) (msg : P.Item), ∃ states rest ending,
    Delivers inbound business (inboundStates s.pipeline.inbound)
      (businessStates s.pipeline.business) msg states rest ending ∧
    s.Delivered msg (inboundStates.symm states) (businessStates.symm rest) ending
  outbound : ∀ (s : StreamState P) (msg : P.Write), ∃ states ending,
    outbound.Runs (outboundStates s.pipeline.outbound) msg states ending ∧
    s.Sent msg (outboundStates.symm states) ending

section InOrder
variable {S T U : Type} {inbound : StageList P.Item P.InOut S}
  {business : StageList P.InOut P.CurrentIn T} {outbound : StageList P.Write P.CurrentOut U}
  {inboundStates : P.InP ≃ S} {businessStates : P.BizP ≃ T} {outboundStates : P.OutP ≃ U}
  {i : P.InP} {b : P.BizP} {o : P.OutP}

theorem processed_delivered (hinbound : Composes inbound i P.inbound inboundStates)
    (hbusiness : Composes business b P.business businessStates) {s : StreamState P}
    (h : Delivers inbound business (inboundStates s.pipeline.inbound)
      (businessStates s.pipeline.business) msg states rest ending) :
    s.Delivered msg (inboundStates.symm states) (businessStates.symm rest) ending := by
  have hunflushed := (processInbound_eq msg s).trans
    (throughStages_result hinbound hbusiness h readHandler)
  have hflushable := (processInboundFlushable_eq msg s).trans
    (throughStages_result hinbound hbusiness (s := s.hand msg) h runHandler)
  refine ⟨hunflushed, hflushable, ?_⟩
  rintro v rfl hread
  rw [hunflushed, hflushable]
  have hbehind : s.Behind (s.setStages (inboundStates.symm states) (businessStates.symm rest))
      ((s.hand msg).setStages (inboundStates.symm states) (businessStates.symm rest)) :=
    ⟨⟨[], rfl, .nil rfl id⟩, rfl⟩
  exact runHandler_drains hbehind rfl hread

theorem inOrder (hinbound : Composes inbound i P.inbound inboundStates)
    (hbusiness : Composes business b P.business businessStates)
    (houtbound : Composes outbound o P.outbound outboundStates) :
    InOrder inbound business outbound inboundStates businessStates outboundStates where
  inbound s msg := by
    obtain ⟨states, rest, ending, h⟩ := exists_delivers inbound business
      (inboundStates s.pipeline.inbound) (businessStates s.pipeline.business) msg
    exact ⟨states, rest, ending, h, processed_delivered hinbound hbusiness h⟩
  outbound s msg := by
    obtain ⟨states, ending, h⟩ := outbound.exists_runs (outboundStates s.pipeline.outbound) msg
    refine ⟨states, ending, h, ?_, outboundFrame_result houtbound h _⟩
    rw [← outboundFrame_result houtbound h id, processOutbound]
    cases hframe : outboundFrame msg s with
    | ok encoded t =>
      rw [bind_of_ok hframe, bind_of_ok hframe]
      cases encoded <;> rfl
    | error e t => rw [bind_of_error hframe, bind_of_error hframe]

end InOrder

end StreamState

open StreamState

namespace PipelineBuilder
variable {Item InOut CurrentIn Write CurrentOut S T U : Type}

/-- A built pipeline runs the stages it was given in the order in which they were added, and begins
with the states that they had. -/
theorem build_inOrder (codec : StreamDecoder Item) (inbound : StageList Item InOut S)
    (business : StageList InOut CurrentIn T) (handler : StreamHandler CurrentIn Write)
    (outbound : StageList Write CurrentOut U)
    (encode : CurrentOut →
      Exec ((build codec inbound business handler outbound).codec.C × BytesMut) Unit) :
    let pipeline := (build codec inbound business handler outbound).intoStreamPipeline encode
    ∃ inboundStates businessStates outboundStates,
      inboundStates pipeline.inbound = inbound.initial ∧
      businessStates pipeline.business = business.initial ∧
      outboundStates pipeline.outbound = outbound.initial ∧
      InOrder (P := (build codec inbound business handler outbound).stages encode) inbound business
        outbound inboundStates businessStates outboundStates := by
  have hbuild := build_eq codec inbound business handler outbound
  generalize build codec inbound business handler outbound = ready at hbuild encode
  subst hbuild
  exact ⟨_, _, _, (Pipe.composes inbound).initial, (Pipe.composes business).initial,
    (Pipe.composes outbound).initial,
    inOrder (Pipe.composes inbound) (Pipe.composes business) (Pipe.composes outbound)⟩

/-- Nothing is decoded. -/
def silent : StreamDecoder Unit where
  C := Unit
  codec := ()
  decode := pure none

/-- The handler writes two messages. -/
def twice : StreamHandler Unit Nat where
  H := Unit
  handler := ()
  read _ _ := .write 0 (.write 1 (.ready (.ok ()) ()))

/-- The encoder refuses the first of them. -/
def refuseZero : Nat → Exec ((build silent .nil .nil twice .nil).codec.C × BytesMut) Unit
  | 0 => throw (.err (.encode "zero"))
  | _ => pure ()

abbrev Refusing : StreamStages := (build silent .nil .nil twice .nil).stages refuseZero

def refusing : StreamState Refusing where
  pipeline := (build silent .nil .nil twice .nil).intoStreamPipeline refuseZero
  ctx := {}
  stream := {}
  writeBuf := []
  stats := none
  history := {}

/-- The message behind the one that is refused is in the outbox and is not encoded. -/
theorem not_processed_outbox :
    (Refusing.read refusing.pipeline.handler ()).AwaitsNoFlush ∧
    ((processInboundFlushable (P := Refusing) ()).result refusing).final.history.processed.map
        (·.msg) ≠
      ((processInbound (P := Refusing) ()).result refusing).final.ctx.outbox.filterMap (·.msg?) := by
  refine ⟨trivial, fun h => ?_⟩
  have hlength : 1 = 2 := congrArg List.length h
  cases hlength

end PipelineBuilder

end RsNetty

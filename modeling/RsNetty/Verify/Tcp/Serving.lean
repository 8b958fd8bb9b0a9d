import RsNetty.Macros
import RsNetty.Theory.Trace
import RsNetty.Theory.Transducer
import RsNetty.Verify.Tcp.Channel
import RsNetty.Verify.Tcp.Wire

/-!
# Handlers that answer

A handler that neither flushes nor closes, such as one made by `#[handler]`, is a transducer from
the messages of the decoder to messages to be written. A connection accepts what the transducer
gives for the messages handed to it and what comes through its channel, in some order of the two.
-/

namespace RsNetty
open EStateM Traced Trace

/-- The handler writes these messages and returns `Ok`, leaving a handler behind, or fails. -/
inductive HandlerFuture.Gives {H M : Type} : HandlerFuture H M → List M → Option H → Prop
  | done : Gives (.ready (.ok ()) handler) [] (some handler)
  | failed : Gives (.ready (.error err) handler) [] none
  | panicked : Gives .panic [] none
  | write : Gives rest msgs handler → Gives (.write msg rest) (msg :: msgs) handler
  | suspend : Gives rest msgs handler → Gives (.suspend rest) msgs handler

namespace FnFuture
variable {H Out W : Type}

theorem respond_gives (future : FnFuture H Out) :
    future.respond.Gives (future.returned.map (·.1)).toList (future.returned.map (·.2)) := by
  induction future with
  | ready result handler =>
    cases result with
    | ok msg => exact .write .done
    | error err => exact .failed
  | panic => exact .panicked
  | suspend rest ih => exact .suspend ih

theorem consume_gives (future : FnFuture H Unit) :
    (future.consume (W := W)).Gives [] (future.returned.map (·.2)) := by
  induction future with
  | ready result handler =>
    cases result with
    | ok msg => exact .done
    | error err => exact .failed
  | panic => exact .panicked
  | suspend rest ih => exact .suspend ih

end FnFuture

/-- What a handler writes for a message, and the handler it leaves behind. -/
abbrev StreamStages.Reply (P : StreamStages) := P.H → P.CurrentIn → List P.Write × Option P.H

/-- The states of the inbound stages, the business stages and the handler. -/
abbrev StreamStages.Service (P : StreamStages) := P.InP × P.BizP × P.H

namespace StreamStages
variable {P : StreamStages}

def RepliesBy (P : StreamStages) (reply : P.Reply) : Prop :=
  ∀ handler msg, (P.read handler msg).Gives (reply handler msg).1 (reply handler msg).2

/-- The stages and the handler, as a transducer. -/
def serve (P : StreamStages) (reply : P.Reply) : Transducer P.Service P.Item P.Write :=
  fun (inbound, business, handler) item =>
    match P.inbound item inbound with
    | .error _ _ => ([], none)
    | .ok .stop inbound => ([], some (inbound, business, handler))
    | .ok (.next msg) inbound =>
      match P.business msg business with
      | .error _ _ => ([], none)
      | .ok .stop business => ([], some (inbound, business, handler))
      | .ok (.next msg) business =>
        let (msgs, handler) := reply handler msg
        (msgs, handler.map fun handler => (inbound, business, handler))

/-- The outbound stages, as a transducer. -/
def render (P : StreamStages) : Transducer P.OutP P.Write P.CurrentOut := fun outbound msg =>
  match P.outbound msg outbound with
  | .error _ _ => ([], none)
  | .ok .stop outbound => ([], some outbound)
  | .ok (.next msg) outbound => ([msg], some outbound)

/-- A message that no stage stops is answered by the handler. -/
theorem serve_of_next {reply : P.Reply} {item : P.Item} {handler : P.H} {i i' : P.InP}
    {b b' : P.BizP} (hinbound : P.inbound item i = .ok (.next msg) i')
    (hbusiness : P.business msg b = .ok (.next value) b') :
    P.serve reply (i, b, handler) item = ((reply handler value).1,
      (reply handler value).2.map fun handler => (i', b', handler)) := by
  simp only [serve, hinbound, hbusiness]

theorem render_of_next {o o' : P.OutP} (h : P.outbound msg o = .ok (.next out) o') :
    P.render o msg = ([out], some o') := by
  simp only [render, h]

end StreamStages

namespace StreamState

variable {P : StreamStages} {reply : P.Reply} {s : StreamState P}

def service (s : StreamState P) : P.Service :=
  (s.pipeline.inbound, s.pipeline.business, s.pipeline.handler)

/-- What the handler and its stages have to do with. -/
structure At (handed : List P.Item) (accepted : List P.Write) (service : P.Service)
    (s : StreamState P) : Prop where
  handed : s.history.handed = handed
  accepted : s.history.accepted = accepted
  service : s.service = service

/-- Some of these messages have been accepted in addition. -/
structure Within (handed : List P.Item) (accepted msgs : List P.Write) (s : StreamState P) :
    Prop where
  handed : s.history.handed = handed
  accepted : ∃ part, part <+: msgs ∧ s.history.accepted = accepted ++ part

variable {handed : List P.Item} {accepted msgs : List P.Write} {service : P.Service}

theorem At.within (h : s.At handed (accepted ++ msgs) service) : s.Within handed accepted msgs :=
  ⟨h.handed, msgs, List.prefix_rfl, h.accepted⟩

theorem At.within_nil (h : s.At handed accepted service) : s.Within handed accepted msgs :=
  ⟨h.handed, [], List.nil_prefix, h.accepted.trans (List.append_nil _).symm⟩

theorem Within.cons {msg : P.Write} (h : s.Within handed (accepted ++ [msg]) msgs) :
    s.Within handed accepted (msg :: msgs) := by
  obtain ⟨hhanded, part, hpart, haccepted⟩ := h
  refine ⟨hhanded, msg :: part, List.cons_prefix_cons.2 ⟨rfl, hpart⟩, ?_⟩
  rw [haccepted, List.append_assoc, List.singleton_append]

/-- A program that does not take part in this. -/
abbrev Apart {α : Type} (x : Traced (Exit Error) (StreamState P) α) : Prop :=
  ∀ handed accepted service, Triple (fun _ => True) (At handed accepted service) x
    (fun _ => At handed accepted service) fun _ => At handed accepted service

theorem outboundFrame_at (msg : P.Write) (h : s.At handed accepted service) :
    (outboundFrame msg s).Holds (fun _ => At handed accepted service)
      fun _ => At handed accepted service := by
  refine Result.holds_final.2 ?_
  change At handed accepted service
    (EStateM.zoom outboundPart (P.outboundFrame msg) (s.processing msg)).final
  rw [final_zoom]
  exact ⟨h.handed, h.accepted, h.service⟩

theorem flushWriteBuf_at (h : s.At handed accepted service) :
    (flushWriteBuf s).Holds (fun _ => At handed accepted service)
      fun _ => At handed accepted service :=
  flushWriteBuf_holds (fun _ => h) (fun _ _ => ⟨h.handed, h.accepted, h.service⟩)
    fun _ _ _ => ⟨h.handed, h.accepted, h.service⟩

theorem flushWriteBuf_apart : Apart (P := P) (await flushWriteBuf) := fun _ _ _ =>
  await_triple fun _ hs => (flushWriteBuf_at hs).mono (fun _ _ ht => ⟨trivial, ht⟩)
    fun _ _ ht => ⟨trivial, ht⟩

theorem drainStreamOutbox_apart (flushAtEnd : Bool) :
    Apart (P := P) (drainStreamOutbox flushAtEnd) := by
  intro handed accepted service
  have hanswer {s : StreamState P} (done : Sender) (ack : Except Error Unit)
      (hs : s.At handed accepted service) : (s.answer done ack).At handed accepted service :=
    ⟨hs.handed, hs.accepted, hs.service⟩
  apply Triple.bind (Q := fun _ => At handed accepted service)
  · exact await_triple fun s hs => ⟨trivial, hs.handed, hs.accepted, hs.service⟩
  intro commands
  apply Triple.bind (Q := fun _ => At handed accepted service)
  · refine drainCommands_triple (J := fun _ => At handed accepted service) ?_ ?_ commands
    · refine fun msg _ => await_triple fun s hs => ?_
      have hframe := encodeOutbound_holds (fun t ht => ⟨ht.handed, ht.accepted, ht.service⟩)
        (outboundFrame_at msg hs)
      exact hframe.mono (fun _ _ ht => ⟨trivial, ht⟩) fun _ _ ht => ⟨trivial, ht⟩
    · refine fun done _ s hs => (flushWriteBuf_at hs).mono (fun _ t ht => ?_) fun _ t ht => ?_
      · exact ⟨trivial, trivial, hanswer done _ ht⟩
      · exact ⟨trivial, ht, fun err => ⟨trivial, hanswer done _ ht⟩⟩
  · intro _
    cases flushAtEnd with
    | false => exact Triple.pure fun s hs => hs
    | true => exact flushWriteBuf_apart handed accepted service

/-! ## One message -/

theorem pollHandler_gives {future : HandlerFuture P.H P.Write} {handler' : Option P.H}
    (h : future.Gives msgs handler') :
    Triple (fun _ => True) (At handed accepted service) (handlerRuntime.pollHandler future)
      (fun polled s => s.At handed (accepted ++ msgs) service ∧
        (handler' = some polled.2 ∨ ∃ err, polled.1 = .error err))
      fun _ => Within handed accepted msgs := by
  induction h generalizing accepted with
  | done => exact Triple.pure fun s hs => ⟨(List.append_nil accepted).symm ▸ hs, .inl rfl⟩
  | @failed err handler =>
    exact Triple.pure fun s hs => ⟨(List.append_nil accepted).symm ▸ hs, .inr ⟨err, rfl⟩⟩
  | panicked => exact Triple.fail fun s hs => hs.within_nil
  | @write rest msgs handler' msg _ ih =>
    apply Triple.bind (Q := fun _ => At handed (accepted ++ [msg]) service)
    · exact Triple.step fun s hs =>
        ⟨trivial, hs.handed, congrArg (· ++ [msg]) hs.accepted, hs.service⟩
    · intro _
      refine ih.mono (fun _ hs => hs) (fun polled s hs => ?_) fun _ s hs => hs.cons
      rwa [List.append_assoc] at hs
  | suspend _ ih =>
    refine Triple.bind (Q := fun _ => At handed accepted service) ?_ fun _ => ih
    refine Triple.look_keep fun s _ => ?_
    split
    · exact (drainStreamOutbox_apart false handed accepted service).mono (fun _ hs => hs)
        (fun _ _ hs => hs) fun _ _ hs => hs.within_nil
    · exact Triple.pure fun s hs => hs

theorem runHandler_gives (hreply : P.RepliesBy reply) {inbound : P.InP} {business : P.BizP}
    {handler : P.H} (msg : P.CurrentIn) :
    Triple (fun _ => True) (At handed accepted (inbound, business, handler)) (runHandler msg)
      (fun _ s => ∃ handler', (reply handler msg).2 = some handler' ∧
        s.At handed (accepted ++ (reply handler msg).1) (inbound, business, handler'))
      fun _ => Within handed accepted (reply handler msg).1 := by
  refine Triple.look_bind fun s hs => ?_
  have hhandler : s.pipeline.handler = handler := congrArg (·.2.2) hs.service
  have hpoll : Triple (fun _ => True) (At handed accepted (inbound, business, handler)) _ _ _ :=
    pollHandler_gives (hreply handler msg)
  rw [hhandler]
  refine Triple.bind (hpoll.pre fun t ht => ht ▸ hs) fun polled t ht => ?_
  obtain ⟨result, next⟩ := polled
  obtain ⟨ht, hnext⟩ := ht
  let Done (u : StreamState P) : Prop :=
    u.At handed (accepted ++ (reply handler msg).1) (inbound, business, next)
  have hset (u : StreamState P)
      (hu : u.At handed (accepted ++ (reply handler msg).1) (inbound, business, handler)) :
      Done (setHandler next u) :=
    ⟨hu.handed, hu.accepted,
      congrArg (fun service : P.Service => (service.1, service.2.1, next)) hu.service⟩
  apply Triple.bind (Q := fun _ => Done) (Triple.step fun u hu => ?_) (fun _ => ?_) t ht
  · exact ⟨trivial, hset u hu⟩
  have hdrain := drainStreamOutbox_apart true handed (accepted ++ (reply handler msg).1)
    (inbound, business, next)
  refine Triple.bind (Q := fun _ => Done) ?_ fun _ => ?_
  · exact hdrain.mono (fun _ hu => hu) (fun _ _ hu => hu) fun _ _ hu => hu.within
  · refine propagate_triple (fun _ u hresult hu => ?_) fun _ u _ hu => hu.within
    rcases hnext with hnext | ⟨err, herr⟩
    · exact ⟨next, hnext, hu⟩
    · cases hresult.symm.trans herr

/-- A stage of which the next state is known. -/
theorem stage_serves {σ α : Type} {c : Component (StreamState P) σ} {x : Exec σ (Flow α)}
    (st : σ) (service' : σ → P.Service) (hget : ∀ s, s.At handed accepted service → c.get s = st)
    (hset : ∀ st' s, s.At handed accepted service →
      (c.set st' s).At handed accepted (service' st')) :
    Triple (fun _ => True) (At handed accepted service) (await (EStateM.zoom c x))
      (fun flow s => ∃ st', x st = .ok flow st' ∧ s.At handed accepted (service' st'))
      fun _ => Within handed accepted msgs := by
  refine await_triple fun s hs => ?_
  cases hx : x (c.get s) with
  | ok flow st' =>
    rw [zoom_of_ok hx]
    exact ⟨trivial, st', hget s hs ▸ hx, hset st' s hs⟩
  | error e st' =>
    rw [zoom_of_error hx]
    exact ⟨trivial, (hset st' s hs).within_nil⟩

/-- A message is served, or the connection fails. -/
theorem processInboundFlushable_serve (hreply : P.RepliesBy reply) (item : P.Item) :
    Triple (fun _ => True) (At handed accepted service) (processInboundFlushable item)
      (fun _ s => ∃ service', (P.serve reply service item).2 = some service' ∧
        s.At (handed ++ [item]) (accepted ++ (P.serve reply service item).1) service')
      fun _ => Within (handed ++ [item]) accepted (P.serve reply service item).1 := by
  obtain ⟨inbound, business, handler⟩ := service
  apply Triple.bind (Q := fun _ => At (handed ++ [item]) accepted (inbound, business, handler))
  · exact Triple.step fun s hs =>
      ⟨trivial, congrArg (· ++ [item]) hs.handed, hs.accepted, hs.service⟩
  intro _
  refine Triple.bind (stage_serves inbound (fun inbound => (inbound, business, handler))
    (fun s hs => congrArg (·.1) hs.service) fun inbound' s hs => ⟨hs.handed, hs.accepted,
      congrArg (fun service : P.Service => (inbound', service.2)) hs.service⟩) ?_
  rintro flow s ⟨inbound', hin, hs⟩
  cases flow with
  | stop =>
    have hserve : P.serve reply (inbound, business, handler) item =
      ([], some (inbound', business, handler)) := by simp only [StreamStages.serve, hin]
    rw [hserve]
    exact Triple.pure (fun t ht => ⟨_, rfl, (List.append_nil accepted).symm ▸ ht⟩) s hs
  | next mid =>
    refine Triple.bind (stage_serves business (fun business => (inbound', business, handler))
      (fun s hs => congrArg (·.2.1) hs.service)
      fun business' s hs => ⟨hs.handed, hs.accepted,
        congrArg (fun service : P.Service => (service.1, business', service.2.2)) hs.service⟩)
      ?_ s hs
    rintro flow s ⟨business', hbusiness, hs⟩
    cases flow with
    | stop =>
      have hserve : P.serve reply (inbound, business, handler) item =
        ([], some (inbound', business', handler)) := by
        simp only [StreamStages.serve, hin, hbusiness]
      rw [hserve]
      exact Triple.pure (fun t ht => ⟨_, rfl, (List.append_nil accepted).symm ▸ ht⟩) s hs
    | next msg =>
      have hserve : P.serve reply (inbound, business, handler) item =
        ((reply handler msg).1,
          (reply handler msg).2.map fun handler => (inbound', business', handler)) := by
        simp only [StreamStages.serve, hin, hbusiness]
      rw [hserve]
      refine (runHandler_gives hreply msg).mono (fun _ ht => ht) (fun _ t ht => ?_)
        (fun _ _ ht => ht) s hs
      obtain ⟨handler', hhandler, ht⟩ := ht
      exact ⟨_, congrArg (Option.map _) hhandler, ht⟩

/-! ## The whole history -/

/-- The messages accepted so far are those that the transducer gives for what it was handed and
those that were told through the channel. -/
structure Serves (reply : P.Reply) (st : P.Service) (told : List P.Write) (s : StreamState P) :
    Prop where
  service : ((P.serve reply).run st s.history.handed).2 = some s.service
  accepted : Interleaves ((P.serve reply).outputs st s.history.handed) told s.history.accepted

/-- The transducer may have given more than was accepted. -/
def Served (reply : P.Reply) (st : P.Service) (told : List P.Write) (s : StreamState P) : Prop :=
  ∃ given, given <+: (P.serve reply).outputs st s.history.handed ∧
    Interleaves given told s.history.accepted

variable {st : P.Service} {told : List P.Write}

theorem Serves.served (h : s.Serves reply st told) : s.Served reply st told :=
  ⟨_, List.prefix_rfl, h.accepted⟩

theorem At.serves (h : s.At handed accepted service) {t : StreamState P}
    (ht : t.At handed accepted service) (hs : s.Serves reply st told) : t.Serves reply st told := by
  obtain ⟨rfl, rfl, rfl⟩ := h
  constructor
  · rw [ht.handed, ht.service]
    exact hs.service
  · rw [ht.handed, ht.accepted]
    exact hs.accepted

/-- A program that leads from accounts of `told` to accounts of `told'`. -/
abbrev Serving {α : Type} (reply : P.Reply) (st : P.Service) (told told' : List P.Write)
    (x : Traced (Exit Error) (StreamState P) α) : Prop :=
  Triple (fun _ => True) (Serves reply st told) x (fun _ => Serves reply st told')
    fun _ => Served reply st told'

theorem Apart.serving {α : Type} {x : Traced (Exit Error) (StreamState P) α} (h : Apart x) :
    Serving reply st told told x := by
  intro s hs
  have hat : s.At s.history.handed s.history.accepted s.service := ⟨rfl, rfl, rfl⟩
  refine ⟨fun _ _ => trivial, ((h _ _ _) s hat).2.mono (fun _ t ht => ?_) fun _ t ht => ?_⟩
  · exact hat.serves ht hs
  · exact (hat.serves ht hs).served

theorem processInboundFlushable_serving (hreply : P.RepliesBy reply) (item : P.Item) :
    Serving reply st told told (processInboundFlushable item) := by
  intro s hs
  have hrun : (P.serve reply).run st s.history.handed =
      ((P.serve reply).outputs st s.history.handed, some s.service) := Prod.ext rfl hs.service
  have hnext := Transducer.run_concat_of_some (i := item) hrun
  have houtputs : (P.serve reply).outputs st (s.history.handed ++ [item]) =
      (P.serve reply).outputs st s.history.handed ++ (P.serve reply s.service item).1 :=
    congrArg (·.1) hnext
  have hserve := processInboundFlushable_serve hreply item s ⟨rfl, rfl, rfl⟩
  refine ⟨fun _ _ => trivial, hserve.2.mono ?_ ?_⟩
  · rintro _ t ⟨service', hservice, ht⟩
    constructor
    · rw [ht.handed, hnext, ht.service, hservice]
    · rw [ht.handed, ht.accepted, houtputs]
      exact hs.accepted.append_left _
  · rintro _ t ⟨hhanded, part, hpart, haccepted⟩
    refine ⟨(P.serve reply).outputs st s.history.handed ++ part, ?_, ?_⟩
    · rw [hhanded, houtputs]
      exact (List.prefix_append_right_inj _).2 hpart
    · rw [haccepted]
      exact hs.accepted.append_left _

end StreamState

namespace StreamConnectionRuntime
open StreamState

variable {P : StreamStages} {reply : P.Reply} {st : P.Service} {told told' : List P.Write}

/-- A part of the task that leads from accounts of `told` to accounts of `told'`. -/
abbrev TaskServing {α : Type} (reply : P.Reply) (st : P.Service) (told told' : List P.Write)
    (x : Task P α) : Prop :=
  Triple (fun _ => True) (fun rt => rt.io.Serves reply st told) x
    (fun _ rt => rt.io.Serves reply st told') fun _ rt => rt.io.Served reply st told'

theorem onIo_serving {α : Type} {failure : Error → ConnectionFailure}
    {x : Traced (Exit Error) (StreamState P) α} (h : Serving reply st told told' x) :
    TaskServing reply st told told' (onIo failure x) := by
  apply Triple.zoom
  intro rt hrt
  have hmapped : Triple (fun _ => True) (Serves reply st told) (mapError (Exit.map failure) x)
      (fun _ => Serves reply st told') fun _ => Served reply st told' := Triple.mapError h
  exact hmapped.pre fun s hs => hs ▸ hrt

theorem writeMessage_serving (msg : P.Write) :
    TaskServing reply st told (told ++ [msg]) (writeMessage msg) := by
  have hframe : Apart (await (processOutbound msg) : Traced _ (StreamState P) Unit) :=
    fun _ _ _ => await_triple fun s hs =>
      (processOutbound_holds (outboundFrame_at msg hs)).mono (fun _ _ ht => ⟨trivial, ht⟩)
        fun _ _ ht => ⟨trivial, ht⟩
  apply Triple.bind (Q := fun _ rt => rt.io.Serves reply st (told ++ [msg]))
  · exact Triple.step fun rt hrt => ⟨trivial, hrt.service, hrt.accepted.right⟩
  intro _
  apply Triple.bind (Q := fun _ rt => rt.io.Serves reply st (told ++ [msg]))
  · exact onIo_serving hframe.serving
  intro _
  apply Triple.bind (Q := fun _ rt => rt.io.Serves reply st (told ++ [msg]))
  · exact Triple.step fun rt hrt => ⟨trivial, hrt.service, hrt.accepted⟩
  · exact fun _ => onIo_serving flushWriteBuf_apart.serving

theorem handleCommand_serving (env : Surroundings) (cmd : Option (StreamCommand P.Write)) :
    TaskServing reply st told (told ++ (Event.command cmd).msg?.toList)
      (handleCommand env cmd) := by
  have hnone : told = told ++ (none : Option P.Write).toList := (List.append_nil told).symm
  cases cmd with
  | none => exact Triple.pure fun rt hrt => hnone ▸ hrt
  | some cmd =>
    cases cmd with
    | close => exact Triple.pure fun rt hrt => hnone ▸ hrt
    | write msg =>
      exact Triple.bind (writeMessage_serving msg) fun _ => Triple.pure fun _ hrt => hrt
    | writeAndFlush msg done =>
      refine writeAndFlush_triple (B := fun rt => rt.io.Serves reply st told) ?_
        (writeMessage_serving msg) ?_ ?_ ?_ ?_ env
      · exact Triple.step fun rt hrt => ⟨trivial, hrt⟩
      · exact fun rt hrt => ⟨trivial, hrt⟩
      · exact fun _ _ rt hrt => ⟨trivial, hrt⟩
      · exact fun rt hrt => hrt
      · exact fun rt hrt => hrt

/-- A turn serves what it reads. -/
theorem select_serving (hreply : P.RepliesBy reply) (env : Surroundings) (event : Event P.Write) :
    TaskServing reply st told (told ++ event.msg?.toList) (select env event) := by
  have hnone : told ++ (none : Option P.Write).toList = told := List.append_nil told
  have hunread : Unread (P := P) (fun _ => True) (fun rt => rt.io.Serves reply st told)
      fun _ rt => rt.io.Served reply st told :=
    ⟨fun _ _ => trivial, fun _ _ hrt => hrt.served, fun _ _ hrt => ⟨hrt.service, hrt.accepted⟩,
      fun _ _ _ hrt => hrt⟩
  have hmsg (item : P.Item) : TaskServing reply st told told
      (onIo handlerFailure (StreamState.processInboundFlushable item)) :=
    onIo_serving (processInboundFlushable_serving hreply item)
  cases event with
  | command cmd => exact handleCommand_serving env cmd
  | read read =>
    rw [show (Event.read (W := P.Write) read).msg? = none from rfl, hnone]
    exact hunread.select_triple hmsg env nofun
  | shutdown =>
    rw [show (Event.shutdown (W := P.Write)).msg? = none from rfl, hnone]
    exact hunread.select_triple hmsg env nofun
  | idle =>
    rw [show (Event.idle (W := P.Write)).msg? = none from rfl, hnone]
    exact hunread.select_triple hmsg env nofun

end StreamConnectionRuntime

/-! ## The outbound side -/

namespace StreamState

variable {P : StreamStages} {s : StreamState P} {outbound : P.OutP}

/-- The messages encoded so far are what the outbound stages gave for those processed. -/
def Renders (outbound : P.OutP) (s : StreamState P) : Prop :=
  P.render.run outbound (s.history.processed.map (·.msg)) = (s.encoded, some s.pipeline.outbound)

/-- The encoder may have refused the last of them. -/
def Rendered (outbound : P.OutP) (s : StreamState P) : Prop :=
  s.encoded <+: P.render.outputs outbound (s.history.processed.map (·.msg))

theorem Renders.outputs (h : s.Renders outbound) :
    P.render.outputs outbound (s.history.processed.map (·.msg)) = s.encoded :=
  congrArg (·.1) h

theorem Renders.rendered (h : s.Renders outbound) : s.Rendered outbound := by
  rw [Rendered, h.outputs]

theorem outboundFrame_renders (msg : P.Write) (h : s.Renders outbound) :
    (outboundFrame msg s).Holds (fun _ => Renders outbound) fun _ => Rendered outbound := by
  let p : Processed P := ⟨s.pipeline.outbound, s.pipeline.codec, s.writeBuf, msg⟩
  have hwritten : (s.processing msg).encoded = s.encoded ++ p.written?.toList :=
    encoded_processing msg s
  have hmsgs : (s.processing msg).history.processed.map (·.msg) =
      s.history.processed.map (·.msg) ++ [msg] := List.map_append
  have hrender := Transducer.run_concat_of_some (i := msg) h
  change (EStateM.zoom outboundPart (P.outboundFrame msg) (s.processing msg)).Holds _ _
  cases p.outcome with
  | @encoded out t o he hrun hout hstage =>
    have hstep : P.render s.pipeline.outbound msg = ([out], some o) := by
      simp only [StreamStages.render, show P.outbound msg s.pipeline.outbound = _ from hstage]
    rw [zoom_of_ok (c := outboundPart) (s := s.processing msg) hrun]
    change P.render.run outbound ((s.processing msg).history.processed.map (·.msg)) =
      ((s.processing msg).encoded, some o)
    rw [hmsgs, hrender, hstep, hwritten, hout]
    rfl
  | @stopped o hrun hout hstage =>
    have hstep : P.render s.pipeline.outbound msg = ([], some o) := by
      simp only [StreamStages.render, show P.outbound msg s.pipeline.outbound = _ from hstage]
    rw [zoom_of_ok (c := outboundPart) (s := s.processing msg) hrun]
    change P.render.run outbound ((s.processing msg).history.processed.map (·.msg)) =
      ((s.processing msg).encoded, some o)
    rw [hmsgs, hrender, hstep, hwritten, hout]
    rfl
  | refused hrun hout =>
    rw [zoom_of_error (c := outboundPart) (s := s.processing msg) hrun]
    change (s.processing msg).encoded <+:
      P.render.outputs outbound ((s.processing msg).history.processed.map (·.msg))
    rw [hwritten, hout, Option.toList_none, List.append_nil, hmsgs, ← h.outputs]
    exact Transducer.outputs_mono (List.prefix_append _ _)

theorem steady_renders : Steady (Renders (P := P) outbound) (Rendered outbound) where
  watched _ hs := hs.rendered
  answered _ _ hs := hs
  frame msg _ hs := outboundFrame_renders msg hs
  flush _ hs := flushWriteBuf_holds (fun _ => hs) (fun _ _ => hs)
    fun _ _ _ => Renders.rendered hs
  accept _ _ hs := hs
  count _ _ hs := hs
  ctx _ _ hs := hs
  inbound _ _ hs := hs
  business _ _ hs := hs
  handler _ _ hs := hs

end StreamState

namespace StreamConnectionRuntime
open StreamState

variable {P : StreamStages} {outbound : P.OutP}

theorem select_renders (env : Surroundings) (event : Event P.Write) :
    Steadily (Rendered outbound) (Renders outbound) Anything (select env event)
      (Renders outbound) := by
  refine select_steadily steady_renders (Triple.mapError (await_triple fun rt hrt => ?_))
    (fun _ _ hs => hs) env event
  have hrendered := (steady_renders (P := P)).watched _ hrt.1
  cases hd : P.decode (decodePart.get rt) with
  | ok item t =>
    rw [zoom_of_ok hd]
    exact ⟨hrendered, hrt.1, trivial⟩
  | error e t =>
    rw [zoom_of_error hd]
    exact ⟨hrendered, hrendered⟩

end StreamConnectionRuntime

/-! ## The channel -/

namespace StreamChannel
open StreamState StreamConnectionRuntime

variable {P : StreamStages} {reply : P.Reply} {st : P.Service} {outbound : P.OutP}
  {env : Surroundings} {s u : StreamChannel P} {action : ChannelAction P}

/-- The task serves what it reads, and writes what it has been told by the first of the commands. -/
structure Serving (reply : P.Reply) (st : P.Service) (s : StreamChannel P) : Prop where
  served : ∃ heard, heard <+: s.queued ∧ s.rt.io.Served reply st (commandMessages heard)
  serves : s.status.isRunning = true → ∃ heard, s.queued = heard ++ s.queue ∧
    s.rt.io.Serves reply st (commandMessages heard)

theorem Serving.step (h : s.Serving reply st) (hreply : P.RepliesBy reply)
    (hstep : StreamChannel.step env s action = some u) : u.Serving reply st := by
  cases step_cases hstep with
  | sent hrt hstatus _ hqueued hqueue =>
    constructor
    · obtain ⟨heard, hheard, hserved⟩ := h.served
      exact ⟨heard, hqueued ▸ hheard.trans (List.prefix_append _ _), hrt ▸ hserved⟩
    · intro hrunning
      rw [hstatus] at hrunning
      obtain ⟨heard, hheard, hserves⟩ := h.serves hrunning
      refine ⟨heard, ?_, hrt ▸ hserves⟩
      rw [hqueued, hqueue (isOver_of_isRunning hrunning), hheard, List.append_assoc]
  | @turned event left hrunning hevent =>
    obtain ⟨heard, hheard, hserves⟩ := h.serves hrunning
    rw [event?_queue hevent, ← List.append_assoc] at hheard
    have hmessages : commandMessages (heard ++ commandsOf event) =
        commandMessages heard ++ event.msg?.toList := by
      rw [← commandMessages_commandsOf]
      exact List.filterMap_append
    have hselect := (select_serving hreply env event s.rt hserves).2
    rw [← hmessages] at hselect
    have hturn := turn_holds left (hselect.mono (fun closed t ht => ⟨ht.served, fun _ => ht⟩)
      fun _ _ ht => ht)
    constructor
    · refine ⟨heard ++ commandsOf event, ?_, hturn.1⟩
      rw [turn_queued, hheard]
      exact List.prefix_append _ _
    · intro hopen
      refine ⟨heard ++ commandsOf event, ?_, hturn.2 hopen⟩
      rw [turn_queued, turn_queue hopen, hheard]

/-- What is encoded went through the outbound stages. -/
structure Rendering (outbound : P.OutP) (s : StreamChannel P) : Prop where
  rendered : s.rt.io.Rendered outbound
  renders : s.status.isRunning = true → s.rt.io.Renders outbound

theorem Rendering.step (h : s.Rendering outbound)
    (hstep : StreamChannel.step env s action = some u) : u.Rendering outbound := by
  cases step_cases hstep with
  | sent hrt hstatus =>
    exact ⟨hrt ▸ h.rendered, fun hrunning => hrt ▸ h.renders (hstatus ▸ hrunning)⟩
  | @turned event left hrunning =>
    have hselect := (select_renders env event s.rt ⟨h.renders hrunning, trivial⟩).2
    have hturn := turn_holds left (hselect.mono
      (fun closed t ht => ⟨steady_renders.watched _ ht.1, fun _ => ht.1⟩) fun _ _ ht => ht)
    exact ⟨hturn.1, hturn.2⟩

end StreamChannel

end RsNetty

import RsNetty.Verify.Udp.Rules

/-!
# Rejected datagrams

A datagram is rejected for its size or by the decoder. The peers of a socket are isolated from each
other if a rejected datagram leaves the run as it would be without it. The task stops at a rejected
datagram instead, with everything that the other peers send after it.
-/

namespace RsNetty
open EStateM Traced

variable {P : DatagramStages}

namespace DatagramState

/-- A relation between what was delivered to the pipeline and the state of its codec that no call of
the encoder breaks. -/
def EncoderKeeps (q : List (SocketAddr × P.Item) → P.C → Prop) : Prop :=
  ∀ delivered item t, q delivered t.1 → q delivered (P.encodeDatagram item t).final.1

/-- The program keeps the relation, however it ends. -/
abbrev Keeps {α : Type} (q : List (SocketAddr × P.Item) → P.C → Prop)
    (x : Traced (Exit Error) (DatagramState P) α) : Prop :=
  Triple (fun _ => True) (fun s => q s.delivered s.pipeline.codec) x
    (fun _ s => q s.delivered s.pipeline.codec) fun _ s => q s.delivered s.pipeline.codec

variable {q : List (SocketAddr × P.Item) → P.C → Prop}

theorem keeps_modify {f : DatagramState P → DatagramState P}
    (hf : ∀ s, (f s).delivered = s.delivered ∧ (f s).pipeline.codec = s.pipeline.codec) :
    Keeps q (step (modify f)) := by
  apply Triple.step
  intro s hs
  obtain ⟨hdelivered, hcodec⟩ := hf s
  exact ⟨trivial, by rwa [hdelivered, hcodec]⟩

/-- The outbound stages do not touch the codec, and of the codec only the encoder is called. -/
theorem outboundDatagram_keeps (hq : EncoderKeeps q) (info : DatagramInfo) (msg : P.Write)
    (t : P.OutP × P.C × BytesMut) (delivered : List (SocketAddr × P.Item))
    (h : q delivered t.2.1) : q delivered (P.outboundDatagram info msg t).final.2.1 := by
  unfold DatagramStages.outboundDatagram
  cases hstages : P.outbound info msg t.1 with
  | error e outbound =>
    rw [bind_of_error (zoom_of_error (c := .fst) hstages)]
    exact h
  | ok flow outbound =>
    rw [bind_of_ok (zoom_of_ok (c := .fst) hstages)]
    cases flow with
    | stop => exact h
    | next item =>
      dsimp only
      rw [final_zoom]
      exact hq delivered item _ h

theorem outbound_keeps (hq : EncoderKeeps q) (info : DatagramInfo) (msg : P.Write) :
    Keeps q (await (EStateM.zoom outboundPart (P.outboundDatagram info msg))) := by
  refine await_triple fun s hs => ?_
  rw [Result.holds_final, final_zoom]
  exact ⟨trivial, outboundDatagram_keeps hq info msg (outboundPart.get s) s.delivered hs⟩

theorem flushDatagram_keeps (peer : SocketAddr) :
    Keeps q (await (flushDatagram (P := P) peer)) := by
  refine await_triple fun s hs => ?_
  rw [flushDatagram, get_bind]
  split
  · cases hsend : UdpSocket.sendTo s.writeBuf peer s.socket with
    | ok _ socket =>
      rw [bind_of_ok (zoom_of_ok (c := socketPart) hsend)]
      exact ⟨trivial, hs⟩
    | error e socket =>
      rw [bind_of_error (zoom_of_error (c := socketPart) hsend)]
      exact ⟨trivial, hs⟩
  · exact ⟨trivial, hs⟩

theorem drainCommands_keeps (hq : EncoderKeeps q) (info : DatagramInfo)
    (commands : List (DatagramOutboxCommand P.Write)) :
    Keeps q (drainCommands info commands) := by
  induction commands with
  | nil => exact Triple.pure fun s hs => hs
  | cons command commands ih =>
    cases command with
    | write msg =>
      have hprocessing : Keeps q (step (modify (processing info msg.1 msg.2))) :=
        keeps_modify fun s => ⟨rfl, rfl⟩
      apply Triple.bind hprocessing
      intro _
      apply Triple.bind (outbound_keeps hq info msg.2)
      intro _
      exact Triple.bind (flushDatagram_keeps msg.1) fun _ => ih
    | flush done => exact Triple.bind (keeps_modify fun s => ⟨rfl, rfl⟩) fun _ => ih

theorem drainDatagramOutbox_keeps (hq : EncoderKeeps q) (info : DatagramInfo) :
    Keeps q (drainDatagramOutbox (P := P) info) := by
  apply Triple.bind (Q := fun _ s => q s.delivered s.pipeline.codec)
  · exact await_triple fun s hs => ⟨trivial, hs⟩
  · exact fun commands => drainCommands_keeps hq info commands

theorem runHandler_keeps (hq : EncoderKeeps q) (info : DatagramInfo) (msg : P.CurrentIn) :
    Keeps q (runHandler info msg) := by
  apply runHandler_triple (S := fun s => q s.delivered s.pipeline.codec)
  · exact fun _ _ => trivial
  · exact fun _ _ hs => hs
  · exact fun _ hs => hs
  · intro future
    apply (handlerRuntime info).pollHandler_triple
    · exact fun s _ => trivial
    · exact fun msg s hs => hs
    · exact await_triple fun s hs => ⟨trivial, hs⟩
    · exact fun s hs => hs
    · exact drainDatagramOutbox_keeps hq info
    · exact fun s hs => hs
    · exact fun s hs => hs
  · exact fun _ _ hs => hs
  · exact drainDatagramOutbox_keeps hq info

/-- Of a message, the stages and the handler. -/
theorem processInboundFlushable_keeps (hq : EncoderKeeps q) (info : DatagramInfo) (msg : P.Item) :
    Triple (fun _ => True)
      (fun s => q (s.delivered ++ [(info.peerAddr, msg)]) s.pipeline.codec)
      (processInboundFlushable info msg)
      (fun _ s => q s.delivered s.pipeline.codec) fun _ s => q s.delivered s.pipeline.codec := by
  refine processInboundFlushable_triple (fun _ _ => trivial) (fun _ _ hs => hs) ?_ ?_ ?_
    (runHandler_keeps hq info)
  · exact fun _ hs => hs
  · exact fun _ _ hs => hs
  · exact fun _ _ hs => hs

/-- A datagram is delivered to the pipeline once, however its processing ends. -/
theorem processInboundFlushable_delivers (info : DatagramInfo) (msg : P.Item) (s : DatagramState P) :
    ((processInboundFlushable info msg).result s).final.delivered =
      s.delivered ++ [(info.peerAddr, msg)] := by
  let q (delivered : List (SocketAddr × P.Item)) (_ : P.C) :=
    delivered = s.delivered ++ [(info.peerAddr, msg)]
  have hq : EncoderKeeps q := fun _ _ _ h => h
  exact Result.holds_final.1 (processInboundFlushable_keeps hq info msg s rfl).2

end DatagramState

namespace DatagramSocketRuntime

variable {rt : DatagramSocketRuntime P}

/-- What is seen of a run: how it ended, if it did, what was delivered to the pipeline, what was
sent, and what the senders of commands were told. -/
structure Observation (P : DatagramStages) where
  ended : Except (Exit Error) Bool
  delivered : List (SocketAddr × P.Item)
  sent : List (SocketAddr × Bytes)
  acks : Acks

def observe (r : EStateM.Result (Exit Error) (DatagramSocketRuntime P) Bool) : Observation P where
  ended := r.toExcept
  delivered := r.final.io.delivered
  sent := r.final.io.socket.sent
  acks := r.final.acks

/-- The task waits for its next event. -/
def Running (r : EStateM.Result (Exit Error) (DatagramSocketRuntime P) Bool) : Prop :=
  ∃ rt, r = .ok false rt

/-- The datagram is longer than `max_datagram_size`, or `decode_datagram` refuses what the task
receives of it. -/
def Rejected (rt : DatagramSocketRuntime P) (datagram : Bytes) : Prop :=
  rt.config.maxDatagramSize < datagram.length ∨
    ∃ e s, DatagramState.decodeDatagram (rt.received datagram) rt.io = .error (.err e) s

/-- A datagram that comes after `before` leaves both that run and what it becomes with the events
`after` as they are without it. -/
def Isolated (rt : DatagramSocketRuntime P) (before : List (SocketEvent P.Write)) (datagram : Bytes)
    (peerAddr : SocketAddr) (after : List (SocketEvent P.Write)) : Prop :=
  let recv : SocketEvent P.Write := .recv (.ok (datagram, peerAddr))
  observe ((run (before ++ [recv])).result rt) = observe ((run before).result rt) ∧
    observe ((run (before ++ recv :: after)).result rt) =
      observe ((run (before ++ after)).result rt)

theorem run_cons (event : SocketEvent P.Write) (events : List (SocketEvent P.Write)) :
    (run (event :: events)).result rt =
      match (select event).result rt with
      | .ok false rt' => (run events).result rt'
      | .ok true rt' => .ok true rt'
      | .error e rt' => .error e rt' := by
  cases h : (select event).result rt with
  | ok stopped rt' =>
    refine (result_bind_of_ok h).trans ?_
    cases stopped <;> rfl
  | error e rt' => exact result_bind_of_error h

/-- A run goes on where the run of its first events stands. -/
theorem run_append (before after : List (SocketEvent P.Write)) :
    (run (before ++ after)).result rt =
      match (run before).result rt with
      | .ok false rt' => (run after).result rt'
      | .ok true rt' => .ok true rt'
      | .error e rt' => .error e rt' := by
  induction before generalizing rt with
  | nil => rfl
  | cons event before ih =>
    rw [List.cons_append, run_cons, run_cons]
    cases (select event).result rt with
    | ok stopped rt' =>
      cases stopped with
      | true => rfl
      | false => exact ih
    | error e rt' => rfl

/-- The error the receive arm has for a datagram. -/
inductive Refuses (rt : DatagramSocketRuntime P) (datagram : Bytes) : Error → Prop
  | size : rt.config.maxDatagramSize < (rt.received datagram).length →
      Refuses rt datagram
        (.datagramTooLarge (rt.received datagram).length rt.config.maxDatagramSize)
  | decode : (rt.received datagram).length ≤ rt.config.maxDatagramSize →
      DatagramState.decodeDatagram (rt.received datagram) rt.io = .error (.err e) s →
      Refuses rt datagram e

theorem handleDatagram_of_size {datagram : Bytes}
    (h : (rt.received datagram).length ≤ rt.config.maxDatagramSize) (peerAddr : SocketAddr) :
    (handleDatagram datagram peerAddr).result rt =
      (processDatagram (rt.received datagram) peerAddr).result rt := by
  rw [handleDatagram, result_look_bind]
  exact congrArg (result · rt) (if_neg (Nat.not_lt.2 h))

theorem processDatagram_refused {read : Bytes}
    (h : DatagramState.decodeDatagram read rt.io = .error e s) (peerAddr : SocketAddr) :
    (processDatagram read peerAddr).result rt = .error e.exit { rt with io := s } :=
  result_bind_of_error (result_zoom_of_error (result_mapError_of_error h))

theorem decodeDatagram_final (read : Bytes) (s : DatagramState P) :
    (DatagramState.decodeDatagram read s).final.delivered = s.delivered ∧
      (DatagramState.decodeDatagram read s).final.socket = s.socket := by
  rw [DatagramState.decodeDatagram, final_zoom]
  exact ⟨rfl, rfl⟩

/-- A refused datagram stops the task with its error, and does nothing else. -/
theorem run_refused {rt₀ : DatagramSocketRuntime P} {before : List (SocketEvent P.Write)}
    {datagram : Bytes} (hrun : (run before).result rt₀ = .ok false rt) (h : Refuses rt datagram e)
    (peerAddr : SocketAddr) (after : List (SocketEvent P.Write)) :
    observe ((run (before ++ .recv (.ok (datagram, peerAddr)) :: after)).result rt₀) =
      { observe ((run before).result rt₀) with ended := .error (.err e) } := by
  rw [run_append, hrun]
  dsimp only
  rw [run_cons, show select (.recv (.ok (datagram, peerAddr))) =
    handleDatagram (P := P) datagram peerAddr from rfl]
  cases h with
  | size hlarge =>
    rw [handleDatagram, result_look_bind]
    dsimp only
    rw [if_pos hlarge]
    rfl
  | @decode e s hsmall hd =>
    rw [handleDatagram_of_size hsmall, processDatagram_refused hd]
    have hfinal := decodeDatagram_final (rt.received datagram) rt.io
    rw [hd] at hfinal
    obtain ⟨hdelivered, hsocket⟩ := hfinal
    have hsent := congrArg UdpSocket.sent hsocket
    simp only [observe, EStateM.Result.final, EStateM.Result.toExcept] at hdelivered hsent ⊢
    rw [hdelivered, hsent]
    rfl

/-- A datagram that the decoder accepts is delivered to the pipeline. -/
theorem processDatagram_delivers {read : Bytes}
    (h : DatagramState.decodeDatagram read rt.io = .ok msg s) (peerAddr : SocketAddr) :
    ((processDatagram read peerAddr).result rt).final.io.delivered =
      rt.io.delivered ++ [(peerAddr, msg)] := by
  have hs := (decodeDatagram_final read rt.io).1
  rw [h] at hs
  have hdecode : (onIo (await (DatagramState.decodeDatagram read))).result rt =
      .ok msg { rt with io := s } := result_zoom_of_ok (result_mapError_of_ok h)
  let io : DatagramState P := { s with ctx := {} }
  have hctx : (step (modify fun rt : DatagramSocketRuntime P =>
      { rt with io := { rt.io with ctx := {} } })).result { rt with io := s } =
      (.ok () { rt with io } : EStateM.Result (Exit Error) _ _) := rfl
  rw [processDatagram, result_bind_of_ok hdecode, result_bind_of_ok hctx, result_look_bind]
  have hdelivers := DatagramState.processInboundFlushable_delivers (rt.info peerAddr) msg io
  rw [show io.delivered = rt.io.delivered from hs] at hdelivers
  rw [show info { rt with io } peerAddr = rt.info peerAddr from rfl]
  cases hp : (DatagramState.processInboundFlushable (rt.info peerAddr) msg).result io with
  | ok _ t =>
    rw [hp] at hdelivers
    have hprocess : (onIo (DatagramState.processInboundFlushable (rt.info peerAddr) msg)).result
        { rt with io } = .ok () { rt with io := t } := result_zoom_of_ok hp
    rw [result_bind_of_ok hprocess]
    exact hdelivers
  | error e t =>
    rw [hp] at hdelivers
    have hprocess : (onIo (DatagramState.processInboundFlushable (rt.info peerAddr) msg)).result
        { rt with io } = .error e { rt with io := t } := result_zoom_of_error hp
    rw [result_bind_of_error hprocess]
    exact hdelivers

theorem run_single (event : SocketEvent P.Write) :
    (run [event]).result rt = (select event).result rt := by
  rw [run_cons]
  cases (select event).result rt with
  | ok stopped rt' => cases stopped <;> rfl
  | error e rt' => rfl

/-- A running task never goes on past a rejected datagram as if it had not come: it stops, or what
`recv_from` left of the datagram is delivered. -/
theorem not_isolated_of_running {before after : List (SocketEvent P.Write)} {datagram : Bytes}
    {peerAddr : SocketAddr} {rt₀ : DatagramSocketRuntime P}
    (hrun : (run before).result rt₀ = .ok false rt) (h : Rejected rt datagram) :
    ¬Isolated rt₀ before datagram peerAddr after := by
  rintro ⟨hsame, -⟩
  have hrefused {e : Error} (h : Refuses rt datagram e) : False := by
    have hended := congrArg Observation.ended ((run_refused hrun h peerAddr []).symm.trans hsame)
    rw [hrun] at hended
    cases hended
  rcases Nat.lt_or_ge rt.config.maxDatagramSize (rt.received datagram).length with hlarge | hsmall
  · exact hrefused (.size hlarge)
  · rcases h with - | ⟨e, s, hd⟩
    · -- The datagram is too long, but `recv_from` cuts it to an acceptable size.
      rw [run_append, hrun] at hsame
      dsimp only at hsame
      rw [run_single, show select (.recv (.ok (datagram, peerAddr))) =
        handleDatagram (P := P) datagram peerAddr from rfl, handleDatagram_of_size hsmall] at hsame
      cases hd : DatagramState.decodeDatagram (rt.received datagram) rt.io with
      | ok msg s =>
        have hdelivered := congrArg (List.length ∘ Observation.delivered) hsame
        have hlength := congrArg List.length (processDatagram_delivers hd peerAddr)
        rw [List.length_append] at hlength
        exact absurd (hlength.symm.trans hdelivered) (Nat.succ_ne_self _)
      | error e s =>
        cases e with
        | err e => exact hrefused (.decode hsmall hd)
        | panic =>
          rw [processDatagram_refused hd] at hsame
          cases congrArg Observation.ended hsame
    · exact hrefused (.decode hsmall hd)

/-- A rejected datagram is discarded without a trace exactly when the task that receives it has
already ended. -/
theorem isolated_iff (rt : DatagramSocketRuntime P) (before after : List (SocketEvent P.Write))
    (datagram : Bytes) (peerAddr : SocketAddr)
    (h : Rejected ((run before).result rt).final datagram) :
    Isolated rt before datagram peerAddr after ↔ ¬Running ((run before).result rt) := by
  constructor
  · rintro hisolated ⟨rt', hrun⟩
    rw [hrun] at h
    exact not_isolated_of_running hrun h hisolated
  · intro hended
    have hstay (events : List (SocketEvent P.Write)) :
        (run (before ++ events)).result rt = (run before).result rt := by
      rw [run_append]
      cases hrun : (run before).result rt with
      | ok stopped rt' =>
        cases stopped with
        | true => rfl
        | false => exact absurd ⟨rt', hrun⟩ hended
      | error e rt' => rfl
    exact ⟨congrArg observe (hstay _), congrArg observe ((hstay _).trans (hstay _).symm)⟩

/-- A byte that is not UTF-8, from one peer. -/
theorem isolated_iff_invalid :
    let rt := new 1 ⟨[127, 0, 0, 1], 9000⟩ {} Utf8DatagramCodec.echoPipeline {}
    Isolated rt [] [0xff] ⟨[127, 0, 0, 1], 9001⟩ [] ↔ ¬Running ((run []).result rt) :=
  isolated_iff _ _ _ _ _ (.inr ⟨_, _, rfl⟩)

/-- It costs the other peer its answer. -/
theorem not_isolated_invalid :
    let rt := new 1 ⟨[127, 0, 0, 1], 9000⟩ {} Utf8DatagramCodec.echoPipeline {}
    let hello := .recv (.ok ([104, 105], ⟨[127, 0, 0, 1], 9002⟩))
    Rejected rt [0xff] ∧ Running ((run []).result rt) ∧
      ((run [hello]).result rt).final.io.socket.sent = [(⟨[127, 0, 0, 1], 9002⟩, [104, 105])] ∧
      ¬Isolated rt [] [0xff] ⟨[127, 0, 0, 1], 9001⟩ [hello] := by
  refine ⟨.inr ⟨_, _, rfl⟩, ⟨_, rfl⟩, ?_, ?_⟩
  · decide
  · rintro ⟨hsame, -⟩
    cases congrArg Observation.ended hsame

end DatagramSocketRuntime

end RsNetty

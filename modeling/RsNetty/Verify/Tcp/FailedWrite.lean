import RsNetty.Verify.Tcp.Outbound

/-!
# Writes before a failing write

A message that a stage or the encoder refuses ends the task at once: what `write_buf` held when the
message reached the outbound stages is never handed to the socket. The first half is a rule for
whatever depends on the outbound side only: it is enough to look at one message and at one flush.
-/

namespace RsNetty
open EStateM Traced

variable {P : StreamStages}

/-- What writing changes: the messages processed, the socket, and the buffer. -/
structure Output (P : StreamStages) where
  processed : List (Processed P)
  stream : TcpStream
  writeBuf : BytesMut

def StreamState.output (s : StreamState P) : Output P :=
  ⟨s.history.processed, s.stream, s.writeBuf⟩

/-- Processing a message and flushing keep `J` unless they fail, and lead to `R` when they do. -/
structure OutputRule (J R : Output P → Prop) : Prop where
  weaken : J o → R o
  frame (msg : P.Write) : J s.output →
    (StreamState.outboundFrame msg s).Holds (fun _ t => J t.output) fun _ t => R t.output
  flush : J s.output →
    (StreamState.flushWriteBuf s).Holds (fun _ t => J t.output) fun _ t => R t.output

/-! ## One inbound message -/

namespace StreamState

variable {J R : Output P → Prop} {α : Type}

/-- A program on the connection that keeps `J` unless it fails, and then ends in `R`. -/
abbrev KeepsOutput (J R : Output P → Prop) (x : Traced (Exit Error) (StreamState P) α) : Prop :=
  Triple (fun _ => True) (fun s => J s.output) x (fun _ s => J s.output) fun _ s => R s.output

theorem encodeOutbound_keepsOutput (h : OutputRule J R) (msg : P.Write) :
    KeepsOutput J R (await (encodeOutbound msg)) :=
  await_triple_of_holds (fun _ _ _ => trivial) (fun _ _ => trivial) fun _ hs =>
    encodeOutbound_holds (fun _ ht => ht) (h.frame msg hs)

theorem processOutbound_keepsOutput (h : OutputRule J R) (msg : P.Write) :
    KeepsOutput J R (await (processOutbound msg)) :=
  await_triple_of_holds (fun _ _ _ => trivial) (fun _ _ => trivial) fun _ hs =>
    processOutbound_holds (h.frame msg hs)

theorem flushWriteBuf_keepsOutput (h : OutputRule J R) :
    KeepsOutput J R (await flushWriteBuf) :=
  await_triple_of_holds (fun _ _ _ => trivial) (fun _ _ => trivial) fun _ => h.flush

theorem drainCommands_keepsOutput (h : OutputRule J R)
    (commands : List (StreamOutboxCommand P.Write)) : KeepsOutput J R (drainCommands commands) := by
  apply drainCommands_triple (J := fun _ s => J s.output)
  · exact fun msg _ => encodeOutbound_keepsOutput h msg
  · intro done commands s hs
    refine (h.flush hs).mono ?_ ?_
    · exact fun _ t ht => ⟨trivial, trivial, ht⟩
    · exact fun _ t ht => ⟨trivial, ht, fun _ => ⟨trivial, ht⟩⟩

theorem drainStreamOutbox_keepsOutput (h : OutputRule J R) (flushAtEnd : Bool) :
    KeepsOutput (P := P) J R (drainStreamOutbox flushAtEnd) := by
  apply Triple.bind (Q := fun _ s => J s.output)
  · exact await_triple fun _ hs => ⟨trivial, hs⟩
  intro commands
  refine Triple.bind (drainCommands_keepsOutput h commands) fun _ => ?_
  cases flushAtEnd with
  | false => exact Triple.pure fun s hs => hs
  | true => exact flushWriteBuf_keepsOutput h

theorem runHandler_keepsOutput (h : OutputRule J R) (msg : P.CurrentIn) :
    KeepsOutput J R (runHandler msg) := by
  apply runHandler_triple (S := fun s => J s.output)
  · exact fun _ _ => trivial
  · exact fun _ _ hs => h.weaken hs
  · exact fun _ hs => hs
  · intro future
    apply handlerRuntime.pollHandler_triple
    · exact fun _ _ => trivial
    · exact fun _ _ hs => hs
    · exact await_triple fun _ hs => ⟨trivial, hs⟩
    · exact fun _ hs => hs
    · exact drainStreamOutbox_keepsOutput h false
    · exact fun _ hs => h.weaken hs
    · exact fun _ hs => h.weaken hs
  · exact fun _ _ hs => hs
  · exact drainStreamOutbox_keepsOutput h true

theorem processInboundFlushable_keepsOutput (h : OutputRule J R) (msg : P.Item) :
    KeepsOutput J R (processInboundFlushable msg) := by
  refine processInboundFlushable_triple (fun _ _ => trivial) (fun _ _ hs => h.weaken hs) ?_ ?_ ?_
    (runHandler_keepsOutput h)
  · exact fun _ hs => hs
  · exact fun _ _ hs => hs
  · exact fun _ _ hs => hs

end StreamState

/-! ## The connection task -/

namespace StreamConnectionRuntime
open StreamState

variable {J R : Output P → Prop} {α : Type}

/-- A part of the task that keeps `J` unless it fails, and then ends in `R`. -/
abbrev TaskKeepsOutput (J R : Output P → Prop) (x : Task P α) : Prop :=
  Triple (fun _ => True) (fun rt => J rt.io.output) x (fun _ rt => J rt.io.output)
    fun _ rt => R rt.io.output

theorem onIo_keepsOutput {failure : Error → ConnectionFailure}
    {x : Traced (Exit Error) (StreamState P) α} (h : KeepsOutput J R x) :
    TaskKeepsOutput J R (onIo failure x) := by
  apply Triple.zoom
  intro rt hrt
  exact (Triple.mapError h).pre fun s hs => hs ▸ hrt

theorem taskKeepsOutput_modify {f : StreamConnectionRuntime P → StreamConnectionRuntime P}
    (h : ∀ rt, (f rt).io.output = rt.io.output) : TaskKeepsOutput J R (step (modify f)) := by
  apply Triple.step
  intro rt hrt
  refine ⟨trivial, ?_⟩
  rw [h]
  exact hrt

theorem unread_output (h : OutputRule J R) :
    Unread (P := P) (fun _ => True) (fun rt => J rt.io.output) fun _ rt => R rt.io.output where
  watched _ _ := trivial
  failed _ _ hrt := h.weaken hrt
  decoded _ _ hrt := hrt
  read _ _ _ hrt := hrt

theorem writeMessage_keepsOutput (h : OutputRule J R) (msg : P.Write) :
    TaskKeepsOutput J R (writeMessage msg) := by
  refine Triple.bind (taskKeepsOutput_modify fun _ => rfl) fun _ => ?_
  refine Triple.bind (onIo_keepsOutput (processOutbound_keepsOutput h msg)) fun _ => ?_
  refine Triple.bind (taskKeepsOutput_modify fun _ => rfl) fun _ => ?_
  exact onIo_keepsOutput (flushWriteBuf_keepsOutput h)

theorem handleCommand_keepsOutput (h : OutputRule J R) (env : Surroundings)
    (cmd : Option (StreamCommand P.Write)) : TaskKeepsOutput J R (handleCommand env cmd) := by
  cases cmd with
  | none => exact Triple.pure fun _ hrt => hrt
  | some cmd =>
    cases cmd with
    | close => exact Triple.pure fun _ hrt => hrt
    | write msg =>
      exact Triple.bind (writeMessage_keepsOutput h msg) fun _ => Triple.pure fun _ hrt => hrt
    | writeAndFlush msg done =>
      have hask : TaskKeepsOutput (P := P) J R (ask done) := taskKeepsOutput_modify fun _ => rfl
      apply writeAndFlush_triple hask (writeMessage_keepsOutput h msg)
      · exact fun _ hrt => ⟨trivial, hrt⟩
      · exact fun _ _ _ hrt => ⟨trivial, hrt⟩
      · exact fun _ hrt => hrt
      · exact fun _ hrt => hrt

theorem select_keepsOutput (h : OutputRule J R) (env : Surroundings) (event : Event P.Write) :
    TaskKeepsOutput J R (select env event) := by
  apply (unread_output h).select_triple
  · exact fun msg => onIo_keepsOutput (processInboundFlushable_keepsOutput h msg)
  · exact fun cmd _ => handleCommand_keepsOutput h env cmd

/-- Where a run ends, whether it has failed or not. -/
theorem run_output (h : OutputRule J R) (env : Surroundings) {rt : StreamConnectionRuntime P}
    (hrt : J rt.io.output) (events : List (Event P.Write)) :
    R ((run env events).result rt).final.io.output := by
  have hresult := (run_triple env (select_keepsOutput h env) events rt hrt).2
  cases hrun : (run env events).result rt with
  | ok closed t =>
    rw [hrun] at hresult
    exact h.weaken hresult
  | error e t =>
    rw [hrun] at hresult
    exact hresult

end StreamConnectionRuntime

/-! ## A refused message -/

/-- On a socket that has not failed, every message was encoded, and what is not sent is in the
buffer. -/
structure Output.Sound (o : Output P) : Prop where
  bytes : o.stream.sent ++ o.writeBuf = frames o.processed
  encoded : ∀ p ∈ o.processed, p.Accepted
  reliable : o.stream.faults = []

/-- Of the messages before a refused one, what the buffer held then is missing on the socket. -/
def Output.Misses (o : Output P) : Prop :=
  ∀ ps p, o.processed = ps ++ [p] → ¬p.Accepted → o.stream.sent ++ p.dst = frames ps

theorem Output.Sound.misses {o : Output P} (h : o.Sound) : o.Misses := by
  intro ps p hps hp
  exact (hp (h.encoded p (hps ▸ List.mem_append_right _ (List.mem_singleton_self p)))).elim

theorem StreamState.outboundFrame_sound {s : StreamState P} {msg : P.Write}
    (happend : P.AppendsOnly) (h : s.output.Sound) :
    (outboundFrame msg s).Holds (fun _ t => t.output.Sound) fun _ t => t.output.Misses := by
  let p : Processed P := ⟨s.pipeline.outbound, s.pipeline.codec, s.writeBuf, msg⟩
  change (EStateM.zoom outboundPart (P.outboundFrame msg) (s.processing msg)).Holds _ _
  unfold EStateM.zoom
  rw [show P.outboundFrame msg (outboundPart.get (s.processing msg)) = p.run from rfl]
  cases hrun : p.run with
  | ok encoded t =>
    have hbuffer := p.final_buffer happend
    rw [hrun] at hbuffer
    refine ⟨?_, ?_, h.reliable⟩
    · change s.stream.sent ++ t.2.2 = frames (s.history.processed ++ [p])
      have hone : frames [p] = p.frame := List.append_nil _
      rw [show t.2.2 = s.writeBuf ++ p.frame from hbuffer, ← List.append_assoc, frames_append, hone]
      exact congrArg (· ++ p.frame) h.bytes
    · intro q hq
      rcases List.mem_append.1 hq with hq | hq
      · exact h.encoded q hq
      · rw [List.mem_singleton.1 hq]
        exact ⟨encoded, t, hrun⟩
  | error e t =>
    intro ps q hps _
    obtain ⟨rfl, hq⟩ := List.append_inj' (show s.history.processed ++ [p] = ps ++ [q] from hps) rfl
    cases hq
    exact h.bytes

theorem StreamState.flushWriteBuf_sound {s : StreamState P} (h : s.output.Sound) :
    (flushWriteBuf s).Holds (fun _ t => t.output.Sound) fun _ t => t.output.Misses := by
  rw [flushWriteBuf, get_bind]
  by_cases hempty : s.writeBuf = []
  · rw [if_neg (not_not.2 hempty)]
    exact h
  · rw [if_pos hempty, bind_of_ok (zoom_of_ok (TcpStream.writeAll_reliable h.reliable _))]
    exact ⟨(List.append_nil _).trans h.bytes, h.encoded, h.reliable⟩

theorem outputRule_sound (happend : P.AppendsOnly) :
    OutputRule (P := P) Output.Sound Output.Misses where
  weaken h := h.misses
  frame _ h := StreamState.outboundFrame_sound happend h
  flush h := StreamState.flushWriteBuf_sound h

namespace StreamConnectionRuntime

/-- When the last message was refused, the socket has the encodings of all messages before it, in
order, and nothing else. -/
def EarlierWritesSent (rt : StreamConnectionRuntime P) : Prop :=
  ∀ ps p, rt.io.history.processed = ps ++ [p] → ¬p.Accepted → rt.io.stream.sent = frames ps

/-- A refused message found `write_buf` empty: what the messages before it left there was flushed
before it reached the outbound stages. -/
def RefusedWhenFlushed (rt : StreamConnectionRuntime P) : Prop :=
  ∀ p, rt.io.history.processed.getLast? = some p → ¬p.Accepted → p.dst = []

/-- In a run whose socket does not fail, a failing write loses nothing of the earlier ones exactly
when none of them waits in `write_buf`. -/
theorem earlierWritesSent_iff (happend : P.AppendsOnly) (env : Surroundings)
    (pipeline : StreamPipeline P) (config : TcpConnectionConfig) (tracked : Bool)
    (events : List (Event P.Write)) :
    let t := ((run env events).result (new {} pipeline config tracked)).final
    t.EarlierWritesSent ↔ t.RefusedWhenFlushed := by
  intro t
  have hsound : (new {} pipeline config tracked).io.output.Sound :=
    ⟨rfl, fun _ hp => (List.not_mem_nil hp).elim, rfl⟩
  have hmisses : t.io.output.Misses := run_output (outputRule_sound happend) env hsound events
  constructor
  · intro hsent p hlast hp
    obtain ⟨ps, hps⟩ := List.getLast?_eq_some_iff.1 hlast
    have hbytes := hmisses ps p hps hp
    rw [← hsent ps p hps hp] at hbytes
    exact List.append_right_eq_self.1 hbytes
  · intro hflushed ps p hps hp
    have hlast : t.io.history.processed.getLast? = some p := by rw [hps, List.getLast?_concat]
    have hbytes := hmisses ps p hps hp
    rwa [hflushed p hlast hp, List.append_nil] at hbytes

/-- A handler that echoes one byte, and then stages two where the encoder takes one. -/
def echoThenTwo (flushed : Bool) : StreamStages :=
  { FixedLengthFrameDecoder.echo with
    read := fun handler (msg : Bytes) =>
      let rest := .write (msg ++ msg) (.ready (.ok ()) handler)
      if flushed then .writeAndFlush msg fun _ => rest else .write msg rest }

theorem echoThenTwo_appendsOnly (flushed : Bool) : (echoThenTwo flushed).AppendsOnly :=
  FixedLengthFrameDecoder.echo_appendsOnly

/-- The task reads the byte 7, with that handler. -/
def echoThenTwoRun (flushed : Bool) : StreamConnectionRuntime (echoThenTwo flushed) :=
  ((run ⟨fun _ => "", 0⟩ [.read (.ok [7])]).result
    (new (P := echoThenTwo flushed) {} ⟨⟨1, by decide⟩, (), (), (), ()⟩ {} false)).final

/-- Behind a flush the second write fails without harm. -/
theorem earlierWritesSent_iff_flushed :
    ((echoThenTwoRun true).EarlierWritesSent ↔ (echoThenTwoRun true).RefusedWhenFlushed) ∧
      (echoThenTwoRun true).io.stream.sent = [7] :=
  ⟨earlierWritesSent_iff (echoThenTwo_appendsOnly true) _ _ _ _ _, by decide +kernel⟩

/-- Without one the first write is lost with it. -/
theorem not_earlierWritesSent_unflushed :
    ¬∀ (P : StreamStages), P.AppendsOnly → ∀ (env : Surroundings) (pipeline : StreamPipeline P)
      (config : TcpConnectionConfig) (tracked : Bool) (events : List (Event P.Write)),
      ((run env events).result (new {} pipeline config tracked)).final.EarlierWritesSent := by
  intro h
  have hsent : (echoThenTwoRun false).EarlierWritesSent :=
    h _ (echoThenTwo_appendsOnly false) _ _ _ _ _
  let first : Processed (echoThenTwo false) := ⟨(), ⟨1, by decide⟩, [], [7]⟩
  let second : Processed (echoThenTwo false) := ⟨(), ⟨1, by decide⟩, [7], [7, 7]⟩
  have hrefused : ¬second.Accepted := by
    rintro ⟨encoded, s, hrun⟩
    have herror : second.run = .error _ _ := rfl
    cases herror.symm.trans hrun
  have hframes : ([] : Bytes) = frames [first] := hsent [first] second rfl hrefused
  exact absurd hframes (by decide)

end StreamConnectionRuntime

end RsNetty

import RsNetty.Verify.Tcp.Outbound
import RsNetty.Verify.Tcp.Steady

/-!
# What a connection puts on the wire

An encoder that writes a word for each message puts the words of the messages it encoded on the
socket, one after the other. A `write_all` that fails leaves the socket with a part of them, and
nothing is sent after it.
-/

namespace RsNetty
open EStateM Traced

variable {P : StreamStages}

/-- The message that was encoded, unless a stage or the encoder refused it. -/
def Processed.written? (p : Processed P) : Option P.CurrentOut :=
  match P.outbound p.msg p.outbound with
  | .ok (.next msg) _ =>
    match P.encode msg (p.codec, p.dst) with
    | .ok _ _ => some msg
    | .error _ _ => none
  | .ok .stop _ => none
  | .error _ _ => none

/-- The ways a message can go. -/
inductive Processed.Outcome (p : Processed P) : Prop
  | encoded : P.encode out (p.codec, p.dst) = .ok () t → p.run = .ok true (o, t) →
      p.written? = some out → P.outbound p.msg p.outbound = .ok (.next out) o → Outcome p
  | stopped : p.run = .ok false (o, p.codec, p.dst) → p.written? = none →
      P.outbound p.msg p.outbound = .ok .stop o → Outcome p
  | refused : p.run = .error e t → p.written? = none → Outcome p

theorem Processed.outcome (p : Processed P) : p.Outcome := by
  have hrun : p.run = P.outboundFrame p.msg (p.outbound, p.codec, p.dst) := rfl
  rw [StreamStages.outboundFrame] at hrun
  cases ho : P.outbound p.msg p.outbound with
  | error e outbound =>
    rw [bind_of_error (zoom_of_error (c := Component.fst) ho)] at hrun
    exact .refused hrun (by simp only [written?, ho])
  | ok flow outbound =>
    rw [bind_of_ok (zoom_of_ok (c := Component.fst) ho)] at hrun
    cases flow with
    | stop => exact .stopped hrun (by simp only [written?, ho]) ho
    | next out =>
      dsimp only at hrun
      cases he : P.encode out (p.codec, p.dst) with
      | error e t =>
        rw [bind_of_error (zoom_of_error (c := Component.snd) he)] at hrun
        exact .refused hrun (by simp only [written?, ho, he])
      | ok _ t =>
        rw [bind_of_ok (zoom_of_ok (c := Component.snd) he)] at hrun
        exact .encoded he hrun (by simp only [written?, ho, he]) ho

/-- A codec in `S` stays there, and encodes a message, if it is `Able` to, by appending its word. -/
structure StreamStages.EncodesAs (P : StreamStages) (S : P.C → Prop) (Able : P.CurrentOut → Prop)
    (word : P.CurrentOut → Bytes) : Prop where
  appends : P.AppendsOnly
  encode : S codec → P.encode msg (codec, dst) = .ok () (codec', dst') →
    S codec' ∧ Able msg ∧ dst' = dst ++ word msg
  decode : S codec → P.decode (codec, b) = .ok item (codec', b') → S codec'

namespace StreamState

variable {S : P.C → Prop} {Able : P.CurrentOut → Prop} {word : P.CurrentOut → Bytes}
  {s : StreamState P}

/-- The messages that were encoded. -/
def encoded (s : StreamState P) : List P.CurrentOut := s.history.processed.filterMap (·.written?)

/-- Nothing but the words of these messages is on the socket. -/
structure Sends (Able : P.CurrentOut → Prop) (word : P.CurrentOut → Bytes) (s : StreamState P) :
    Prop where
  able : ∀ m ∈ s.encoded, Able m
  sent : s.stream.sent <+: s.encoded.flatMap word

/-- The words of these messages are on the socket or in `write_buf`. -/
structure Writes (S : P.C → Prop) (Able : P.CurrentOut → Prop) (word : P.CurrentOut → Bytes)
    (s : StreamState P) : Prop where
  codec : S s.pipeline.codec
  able : ∀ m ∈ s.encoded, Able m
  bytes : s.stream.sent ++ s.writeBuf = s.encoded.flatMap word

theorem Writes.sends (h : s.Writes S Able word) : s.Sends Able word :=
  ⟨h.able, s.writeBuf, h.bytes⟩

theorem encoded_processing (msg : P.Write) (s : StreamState P) :
    (s.processing msg).encoded = s.encoded ++
      (Processed.written? ⟨s.pipeline.outbound, s.pipeline.codec, s.writeBuf, msg⟩).toList := by
  rw [encoded, processing, List.filterMap_append]
  cases h : Processed.written? ⟨s.pipeline.outbound, s.pipeline.codec, s.writeBuf, msg⟩ with
  | none => simp [encoded, h]
  | some out => simp [encoded, h]

theorem outboundFrame_writes (hcodec : P.EncodesAs S Able word) (msg : P.Write)
    (h : s.Writes S Able word) :
    (outboundFrame msg s).Holds (fun _ => Writes S Able word) fun _ => Sends Able word := by
  let p : Processed P := ⟨s.pipeline.outbound, s.pipeline.codec, s.writeBuf, msg⟩
  have hwritten : (s.processing msg).encoded = s.encoded ++ p.written?.toList :=
    encoded_processing msg s
  change (EStateM.zoom outboundPart (P.outboundFrame msg) (s.processing msg)).Holds _ _
  cases p.outcome with
  | @encoded out t o he hrun hout =>
    obtain ⟨codec, dst⟩ := t
    obtain ⟨hS, hable, hdst⟩ := hcodec.encode h.codec he
    rw [hout, Option.toList_some] at hwritten
    rw [zoom_of_ok (c := outboundPart) (s := s.processing msg) hrun]
    refine ⟨hS, ?_, ?_⟩
    · change ∀ m ∈ (s.processing msg).encoded, Able m
      rw [hwritten]
      exact List.forall_mem_append.2 ⟨h.able, List.forall_mem_singleton.2 hable⟩
    · change s.stream.sent ++ dst = (s.processing msg).encoded.flatMap word
      rw [hwritten, hdst, ← List.append_assoc, h.bytes, List.flatMap_append, List.flatMap_singleton]
  | stopped hrun hout =>
    rw [hout, Option.toList_none, List.append_nil] at hwritten
    rw [zoom_of_ok (c := outboundPart) (s := s.processing msg) hrun]
    refine ⟨h.codec, ?_, ?_⟩
    · change ∀ m ∈ (s.processing msg).encoded, Able m
      rw [hwritten]
      exact h.able
    · change s.stream.sent ++ s.writeBuf = (s.processing msg).encoded.flatMap word
      rw [hwritten]
      exact h.bytes
  | refused hrun hout =>
    rw [hout, Option.toList_none, List.append_nil] at hwritten
    rw [zoom_of_error (c := outboundPart) (s := s.processing msg) hrun]
    constructor
    · change ∀ m ∈ (s.processing msg).encoded, Able m
      rw [hwritten]
      exact h.able
    · change s.stream.sent <+: (s.processing msg).encoded.flatMap word
      rw [hwritten]
      exact h.sends.sent

/-- A `write_all` hands a part of the buffer to the socket, all of it if it succeeds. -/
theorem writeAll_sends (src : Bytes) (stream : TcpStream) :
    (TcpStream.writeAll src stream).Holds (fun _ t => t.sent = stream.sent ++ src)
      fun _ t => t.sent <+: stream.sent ++ src := by
  unfold TcpStream.writeAll
  split
  next => exact rfl
  next => exact rfl
  next => exact (List.prefix_append_right_inj _).2 (List.take_prefix _ _)

theorem flushWriteBuf_writes (h : s.Writes S Able word) :
    (flushWriteBuf s).Holds (fun _ => Writes S Able word) fun _ => Sends Able word := by
  have hwrite := writeAll_sends s.writeBuf s.stream
  refine flushWriteBuf_holds (fun _ => h) (fun stream hx => ?_) fun e stream hx => ?_
  · rw [hx] at hwrite
    have hsent : stream.sent = s.stream.sent ++ s.writeBuf := hwrite
    exact ⟨h.codec, h.able, (List.append_nil _).trans (hsent.trans h.bytes)⟩
  · rw [hx] at hwrite
    have hsent : stream.sent <+: s.stream.sent ++ s.writeBuf := hwrite
    rw [h.bytes] at hsent
    exact ⟨h.able, hsent⟩

theorem steady_writes (hcodec : P.EncodesAs S Able word) :
    Steady (Writes S Able word) (Sends Able word) where
  watched _ hs := hs.sends
  answered _ _ hs := ⟨hs.able, hs.sent⟩
  frame msg _ hs := outboundFrame_writes hcodec msg hs
  flush _ hs := flushWriteBuf_writes hs
  accept _ _ hs := ⟨hs.codec, hs.able, hs.bytes⟩
  count _ _ hs := ⟨hs.codec, hs.able, hs.bytes⟩
  ctx _ _ hs := ⟨hs.codec, hs.able, hs.bytes⟩
  inbound _ _ hs := ⟨hs.codec, hs.able, hs.bytes⟩
  business _ _ hs := ⟨hs.codec, hs.able, hs.bytes⟩
  handler _ _ hs := ⟨hs.codec, hs.able, hs.bytes⟩

/-! ## Nothing is left in the buffer -/

/-- Nothing waits to be sent. -/
def Emptied (s : StreamState P) : Prop := s.writeBuf = []

/-- A program that leaves the buffer empty if it returns. -/
abbrev Empties {α : Type} (K : StreamState P → Prop) (x : Traced (Exit Error) (StreamState P) α) :
    Prop :=
  Triple (fun _ => True) K x (fun _ => Emptied) fun _ _ => True

theorem flushWriteBuf_empties : Empties (P := P) (fun _ => True) (await flushWriteBuf) := by
  refine await_triple fun s _ => ?_
  exact flushWriteBuf_holds (fun hempty => ⟨trivial, hempty⟩) (fun _ _ => ⟨trivial, rfl⟩)
    fun _ _ _ => ⟨trivial, trivial⟩

theorem processInboundFlushable_empties (msg : P.Item) :
    Empties Emptied (processInboundFlushable msg) := by
  have hdrain : Empties (P := P) (fun _ => True) (drainStreamOutbox true) :=
    Triple.bind Triple.anything fun _ => Triple.bind Triple.anything fun _ => flushWriteBuf_empties
  refine processInboundFlushable_triple (fun _ _ => trivial) (fun _ _ _ => trivial) (fun _ hs => hs)
    (fun _ _ hs => hs) (fun _ _ hs => hs) fun msg => ?_
  exact runHandler_triple (fun _ _ => trivial) (fun _ _ _ => trivial) (fun _ _ => trivial)
    (fun _ => Triple.anything) (fun _ _ _ => trivial) hdrain

end StreamState

namespace StreamConnectionRuntime
open StreamState

variable {S : P.C → Prop} {Able : P.CurrentOut → Prop} {word : P.CurrentOut → Bytes}

theorem decode_writes (hcodec : P.EncodesAs S Able word) :
    Steadily (Sends Able word) (Writes S Able word) Anything decode (Writes S Able word) := by
  refine Triple.mapError (await_triple fun rt hrt => ?_)
  cases hd : P.decode (decodePart.get rt) with
  | ok item t =>
    rw [zoom_of_ok hd]
    have hwrites : (decodePart.set t rt).io.Writes S Able word :=
      ⟨hcodec.decode hrt.1.codec hd, hrt.1.able, hrt.1.bytes⟩
    exact ⟨hwrites.sends, hwrites, trivial⟩
  | error e t =>
    rw [zoom_of_error hd]
    have hsends : (decodePart.set t rt).io.Sends Able word := ⟨hrt.1.able, hrt.1.sends.sent⟩
    exact ⟨hsends, hsends⟩

/-- Throughout a turn the socket has words of encoded messages only. -/
theorem select_writes (hcodec : P.EncodesAs S Able word) (env : Surroundings)
    (event : Event P.Write) :
    Steadily (Sends Able word) (Writes S Able word) Anything (select env event)
      (Writes S Able word) := by
  refine select_steadily (steady_writes hcodec) (decode_writes hcodec) ?_ env event
  exact fun _ _ hs => ⟨hs.codec, hs.able, hs.bytes⟩

/-- A part of the task that leaves the buffer empty if it returns. -/
abbrev TaskEmpties {α : Type} (K : StreamState P → Prop) (x : Task P α) : Prop :=
  Triple (fun _ => True) (fun rt => K rt.io) x (fun _ rt => rt.io.Emptied) fun _ _ => True

theorem onIo_empties {α : Type} {failure : Error → ConnectionFailure} {K : StreamState P → Prop}
    {x : Traced (Exit Error) (StreamState P) α} (h : Empties K x) :
    TaskEmpties K (onIo failure x) := by
  apply Triple.zoom
  exact fun rt hrt => (Triple.mapError h).pre fun s hs => hs ▸ hrt

/-- A turn that leaves the task running leaves nothing to be sent. -/
theorem select_empties (env : Surroundings) (event : Event P.Write) :
    TaskEmpties Emptied (select env event) := by
  have hunread : Unread (P := P) (fun _ => True) (fun rt => rt.io.Emptied) fun _ _ => True :=
    ⟨fun _ _ => trivial, fun _ _ _ => trivial, fun _ _ hrt => hrt, fun _ _ _ hrt => hrt⟩
  have hwrite (msg : P.Write) : TaskEmpties Emptied (writeMessage msg) :=
    Triple.bind Triple.anything fun _ => Triple.bind Triple.anything fun _ =>
      Triple.bind Triple.anything fun _ => onIo_empties flushWriteBuf_empties
  have hmsg (msg : P.Item) : TaskEmpties Emptied
      (onIo handlerFailure (StreamState.processInboundFlushable msg)) :=
    onIo_empties (processInboundFlushable_empties msg)
  refine hunread.select_triple hmsg env ?_
  rintro cmd -
  cases cmd with
  | none => exact Triple.pure fun _ hrt => hrt
  | some cmd =>
    cases cmd with
    | close => exact Triple.pure fun _ hrt => hrt
    | write msg => exact Triple.bind (hwrite msg) fun _ => Triple.pure fun _ hrt => hrt
    | writeAndFlush msg done =>
      refine writeAndFlush_triple (B := fun rt => rt.io.Emptied) ?_ (hwrite msg) ?_ ?_ ?_ ?_ env
      · exact Triple.step fun rt hrt => ⟨trivial, hrt⟩
      · exact fun _ hrt => ⟨trivial, hrt⟩
      · exact fun _ _ _ _ => ⟨trivial, trivial⟩
      · exact fun _ _ => trivial
      · exact fun _ _ => trivial

end StreamConnectionRuntime

end RsNetty

import RsNetty.Codec.FixedLength
import RsNetty.Theory.Segmentation
import RsNetty.Transport.Tcp.Connection

/-!
# TCP connections and the cutting of their stream

One round of the decode loop, the decoding of a message and its way through the pipeline, is a
decoder of its own (`decodeRound`), and as independent of the cutting as the codec is. A connection
does what this decoder does on the reads, but for the size check, which looks at the buffer before
anything is decoded.
-/

namespace RsNetty
open EStateM Traced Segmentation

/-- The close reason of a decode error. -/
def Fault.decodeReason : Fault → Option CloseReason
  | .err e => some (decodeFailure e).reason
  | .panic => none

/-- What the decoder makes of a buffer does not change when more bytes follow. -/
def StreamStages.SegmentationIndependent (P : StreamStages) : Prop :=
  ∀ codec b r, StableAt P.decode (fun e e' => e.decodeReason = e'.decodeReason) codec b r

variable {P : StreamStages}

/-- Every item takes something off the buffer. -/
def StreamStages.Progresses (P : StreamStages) : Prop :=
  ∀ {codec b msg codec' b'}, P.decode (codec, b) = .ok (some msg) (codec', b') →
    b'.length < b.length

theorem StreamStages.SegmentationIndependent.progresses (hdec : P.SegmentationIndependent) :
    P.Progresses := by
  intro codec b msg codec' b' h
  have hst := hdec codec b []
  rw [StableAt, h] at hst
  exact hst.1

/-- How a connection stops handling reads, and what state the pipeline is left in. -/
structure Closing (P : StreamStages) where
  exit : Except (Exit ConnectionFailure) CloseReason
  io : StreamState P

/-- The close reason; a panic or a hang has none. -/
def Closing.reason (closing : Closing P) : Option CloseReason :=
  match closing.exit with
  | .ok reason => some reason
  | .error (.err failure) => some failure.reason
  | .error _ => none

namespace StreamState

def setCodec (codec : P.C) (s : StreamState P) : StreamState P :=
  { s with pipeline := { s.pipeline with codec } }

/-- What one message leaves of a connection that goes on, or how it closes the connection. -/
def afterMessage (msg : P.Item) (s : StreamState P) : Except (Closing P) (StreamState P) :=
  match (processInboundFlushable msg).result s with
  | .error e s => .error ⟨.error (e.map handlerFailure), s⟩
  | .ok () s => if s.ctx.closeRequested then .error ⟨.ok .handlerClosed, s⟩ else .ok s

/-- One round of the decode loop of `handle_read`. -/
def decodeRound : Decoder (Closing P) (StreamState P) UInt8 Unit := fun (s, b) =>
  match P.decode (s.pipeline.codec, b) with
  | .ok none (codec, b) => .ok none (s.setCodec codec, b)
  | .ok (some msg) (codec, b) =>
    match (s.setCodec codec).afterMessage msg with
    | .ok s => .ok (some ()) (s, b)
    | .error closing => .error closing (closing.io, b)
  | .error e (codec, b) =>
    .error ⟨.error (e.exit.map decodeFailure), s.setCodec codec⟩ (s.setCodec codec, b)

/-- The messages handed to the pipeline by the end of a run of rounds. -/
def handedBy : Ending (Closing P) (StreamState P) UInt8 → List P.Item
  | .waiting s _ => s.history.handed
  | .failed closing => closing.io.history.handed
  | .stuck => []

/-- The close reason of a run of rounds, if it has one. -/
def closedBy : Ending (Closing P) (StreamState P) UInt8 → Option CloseReason
  | .failed closing => closing.reason
  | _ => none

/-- Closings that an observer of messages and reasons cannot tell apart. -/
def SameClosing (c c' : Closing P) : Prop :=
  c.reason = c'.reason ∧ c.io.history.handed = c'.io.history.handed

variable {s : StreamState P} {b b' : BytesMut} {codec : P.C} {msg : P.Item}

theorem decodeRound_none (h : P.decode (s.pipeline.codec, b) = .ok none (codec, b')) :
    decodeRound (s, b) = .ok none (s.setCodec codec, b') := by
  simp only [decodeRound, h]

theorem decodeRound_error (h : P.decode (s.pipeline.codec, b) = .error e (codec, b')) :
    decodeRound (s, b) =
      .error ⟨.error (e.exit.map decodeFailure), s.setCodec codec⟩ (s.setCodec codec, b') := by
  simp only [decodeRound, h]

theorem decodeRound_some (h : P.decode (s.pipeline.codec, b) = .ok (some msg) (codec, b'))
    (hs : (s.setCodec codec).afterMessage msg = .ok s') :
    decodeRound (s, b) = .ok (some ()) (s', b') := by
  simp only [decodeRound, h, hs]

theorem decodeRound_closing (h : P.decode (s.pipeline.codec, b) = .ok (some msg) (codec, b'))
    (hs : (s.setCodec codec).afterMessage msg = .error closing) :
    decodeRound (s, b) = .error closing (closing.io, b') := by
  simp only [decodeRound, h, hs]

theorem decodeRound_stable (hdec : P.SegmentationIndependent) (s : StreamState P)
    (b r : BytesMut) : StableAt decodeRound SameClosing s b r := by
  have h := hdec s.pipeline.codec b r
  unfold StableAt at h ⊢
  cases hd : P.decode (s.pipeline.codec, b) with
  | ok item t =>
    obtain ⟨codec, b'⟩ := t
    rw [hd] at h
    cases item with
    | none =>
      rw [decodeRound_none hd]
      refine ⟨h.1, ?_⟩
      simp only [decodeRound, h.2]
      rfl
    | some msg =>
      cases hs : (s.setCodec codec).afterMessage msg with
      | ok s' =>
        rw [decodeRound_some hd hs]
        exact ⟨h.1, decodeRound_some h.2 hs⟩
      | error closing =>
        rw [decodeRound_closing hd hs]
        exact ⟨closing, _, decodeRound_closing h.2 hs, rfl, rfl⟩
  | error e t =>
    obtain ⟨codec, b'⟩ := t
    rw [hd] at h
    obtain ⟨e', ⟨codec', b''⟩, he', hreason⟩ := h
    rw [decodeRound_error hd]
    refine ⟨_, _, decodeRound_error he', ?_, rfl⟩
    cases e with
    | panic =>
      cases e' with
      | panic => rfl
      | err e' => cases hreason
    | err e =>
      cases e' with
      | panic => cases hreason
      | err e' => exact hreason

end StreamState

theorem FixedLengthFrameDecoder.echo_independent : echo.SegmentationIndependent := by
  intro self b r
  have hcall : StableCall self.decode (fun e e' => e.decodeReason = e'.decodeReason) b r := by
    rcases Nat.lt_or_ge b.length self.frameLength with hshort | hlong
    · exact .none (decode_short hshort)
    · have hlong' : self.frameLength ≤ (b ++ r).length := by
        rw [List.length_append]
        exact Nat.le_add_right_of_le hlong
      have hmore := decode_complete hlong'
      rw [List.take_append_of_le_length hlong, List.drop_append_of_le_length hlong] at hmore
      have hpos := self.frameLength_pos
      exact .item (decode_complete hlong) (by rw [List.length_drop]; omega) hmore
  have hzoom (b : BytesMut) : echo.decode (self, b) =
      EStateM.zoom Component.snd self.decode (self, b) := rfl
  refine hcall.stableAt (f := id) ?_ ?_
  · intro b item b' h
    rw [hzoom, zoom_of_ok h, Option.map_id]
    rfl
  · intro b e b' h
    rw [hzoom, zoom_of_error h]
    rfl

namespace StreamConnectionRuntime
open StreamState

/-- The result of handling reads, as the end of a run of rounds. -/
def ending : EStateM.Result (Exit ConnectionFailure) (StreamConnectionRuntime P)
    (Option CloseReason) → Ending (Closing P) (StreamState P) UInt8
  | .ok none rt => .waiting rt.io rt.readBuf
  | .ok (some reason) rt => .failed ⟨.ok reason, rt.io⟩
  | .error e rt => .failed ⟨.error e, rt.io⟩

variable {rt : StreamConnectionRuntime P} {b : BytesMut} {codec : P.C}

/-- The task once a call of the decoder has left this behind. -/
def decoded (codec : P.C) (b : BytesMut) (rt : StreamConnectionRuntime P) :
    StreamConnectionRuntime P :=
  decodePart.set (codec, b) rt

theorem decode_ok (h : P.decode (rt.io.pipeline.codec, rt.readBuf) = .ok item (codec, b)) :
    decode.result rt = .ok item (rt.decoded codec b) :=
  result_mapError_of_ok (result_mapError_of_ok (zoom_of_ok (c := decodePart) h))

theorem decode_error (h : P.decode (rt.io.pipeline.codec, rt.readBuf) = .error e (codec, b)) :
    decode.result rt = .error (e.exit.map decodeFailure) (rt.decoded codec b) :=
  result_mapError_of_error (result_mapError_of_error (zoom_of_error (c := decodePart) h))

/-- The task once a message is taken off the buffer and handled. -/
def handled (s : StreamState P) (b : BytesMut) (rt : StreamConnectionRuntime P) :
    StreamConnectionRuntime P :=
  { rt.decoded s.pipeline.codec b with io := s, stats := rt.stats.map .addFrameRead }

theorem decodeLoop_some {msg : P.Item} {fuel : Nat}
    (hd : P.decode (rt.io.pipeline.codec, rt.readBuf) = .ok (some msg) (codec, b)) :
    (decodeLoop (fuel + 1)).result rt =
      match (processInboundFlushable msg).result (rt.io.setCodec codec) with
      | .error e s => .error (e.map handlerFailure) (rt.handled s b)
      | .ok _ s =>
        if s.ctx.closeRequested then .ok (some .handlerClosed) (rt.handled s b)
        else (decodeLoop fuel).result (rt.handled s b) := by
  have hcount : (countRead .addFrameRead).result (rt.decoded codec b) =
      .ok () (rt.handled (rt.io.setCodec codec) b) := rfl
  rw [decodeLoop, result_bind_of_ok (decode_ok hd)]
  dsimp only
  rw [result_bind_of_ok hcount]
  cases hm : (processInboundFlushable msg).result (rt.io.setCodec codec) with
  | error e s =>
    have hon : (onIo handlerFailure (processInboundFlushable msg)).result
        (rt.handled (rt.io.setCodec codec) b) = .error (e.map handlerFailure) (rt.handled s b) :=
      result_zoom_of_error (result_mapError_of_error hm)
    exact result_bind_of_error hon
  | ok _ s =>
    have hon : (onIo handlerFailure (processInboundFlushable msg)).result
        (rt.handled (rt.io.setCodec codec) b) = .ok () (rt.handled s b) :=
      result_zoom_of_ok (result_mapError_of_ok hm)
    rw [result_bind_of_ok hon, result_look_bind]
    exact apply_ite (fun x : Task P (Option CloseReason) => x.result (rt.handled s b)) _ _ _

/-- A message that leaves the connection open. -/
theorem decodeLoop_message {msg : P.Item} {fuel : Nat}
    (hd : P.decode (rt.io.pipeline.codec, rt.readBuf) = .ok (some msg) (codec, b))
    (hs : (rt.io.setCodec codec).afterMessage msg = .ok s) :
    (decodeLoop (fuel + 1)).result rt = (decodeLoop fuel).result (rt.handled s b) := by
  rw [decodeLoop_some hd]
  unfold afterMessage at hs
  split at hs
  next => cases hs
  next hm =>
    simp only [hm]
    split at hs
    next => cases hs
    next hopen =>
      cases hs
      exact if_neg hopen

/-- A message that closes the connection. -/
theorem decodeLoop_closing {msg : P.Item} {fuel : Nat} {closing : Closing P}
    (hd : P.decode (rt.io.pipeline.codec, rt.readBuf) = .ok (some msg) (codec, b))
    (hs : (rt.io.setCodec codec).afterMessage msg = .error closing) :
    ending ((decodeLoop (fuel + 1)).result rt) = .failed closing ∧
      ((decodeLoop (fuel + 1)).result rt).final.config = rt.config := by
  rw [decodeLoop_some hd]
  unfold afterMessage at hs
  split at hs
  next hm =>
    cases hs
    simp only [hm]
    exact ⟨rfl, rfl⟩
  next hm =>
    split at hs
    next hclose =>
      cases hs
      simp only [hm, if_pos hclose]
      exact ⟨rfl, rfl⟩
    next => cases hs

/-- The decode loop is a run of rounds on the buffer. -/
theorem decodeLoop_ending (hdec : P.Progresses) {fuel : Nat}
    (hfuel : rt.readBuf.length < fuel) :
    ending ((decodeLoop fuel).result rt) = (drain decodeRound rt.io rt.readBuf).2 ∧
      ((decodeLoop fuel).result rt).final.config = rt.config := by
  induction fuel generalizing rt with
  | zero => exact absurd hfuel (Nat.not_lt_zero _)
  | succ fuel ih =>
    cases hd : P.decode (rt.io.pipeline.codec, rt.readBuf) with
    | error e t =>
      obtain ⟨codec, b⟩ := t
      rw [decodeLoop, result_bind_of_error (decode_error hd), drain_error (decodeRound_error hd)]
      exact ⟨rfl, rfl⟩
    | ok item t =>
      obtain ⟨codec, b⟩ := t
      cases item with
      | none =>
        rw [decodeLoop, result_bind_of_ok (decode_ok hd), drain_none (decodeRound_none hd)]
        exact ⟨rfl, rfl⟩
      | some msg =>
        have hshort := hdec hd
        cases hs : (rt.io.setCodec codec).afterMessage msg with
        | error closing =>
          rw [drain_error (decodeRound_closing hd hs)]
          exact decodeLoop_closing hd hs
        | ok s =>
          have hb : (rt.handled s b).readBuf.length < fuel :=
            Nat.lt_of_lt_of_le hshort (Nat.le_of_lt_succ hfuel)
          rw [drain_item (decodeRound_some hd hs) hshort, decodeLoop_message hd hs]
          exact ih hb

/-! ## Reads -/

/-- The reads of a stream that arrives in these chunks. -/
def reads (chunks : List Bytes) : List (Event P.Write) := chunks.map fun c => .read (.ok c)

theorem reads_cons (c : Bytes) (cs : List Bytes) :
    reads (P := P) (c :: cs) = .read (.ok c) :: reads cs :=
  rfl

/-- The task with a chunk in its buffer. -/
def received (c : Bytes) (rt : StreamConnectionRuntime P) : StreamConnectionRuntime P :=
  { rt with readBuf := rt.readBuf ++ c, stats := rt.stats.map (.addBytesRead c.length) }

theorem select_read {c : Bytes} (hc : c ≠ []) (env : Surroundings) :
    (select env (.read (.ok c))).result rt =
      if (rt.readBuf ++ c).length > rt.config.maxFrameSize then
        .error (.err (failure .frameTooLarge
          (.frameTooLarge (rt.readBuf ++ c).length rt.config.maxFrameSize))) (rt.received c)
      else (decodeLoop ((rt.readBuf ++ c).length + 1 + env.spin)).result (rt.received c) := by
  have hread : (select env (.read (.ok c))).result rt =
      (handleRead env (.ok c.length)).result { rt with readBuf := rt.readBuf ++ c } :=
    result_bind_of_ok rfl
  have hcount : (countRead (.addBytesRead c.length)).result
      { rt with readBuf := rt.readBuf ++ c } = .ok () (rt.received c) := rfl
  rw [hread, handleRead, if_neg (fun h => hc (List.eq_nil_of_length_eq_zero h)),
    result_bind_of_ok hcount, result_look_bind]
  exact apply_ite (fun x : Task P (Option CloseReason) => x.result (rt.received c)) _ _ _

theorem select_read_ending (hdec : P.Progresses) {c : Bytes} (hc : c ≠ [])
    (hfit : (rt.readBuf ++ c).length ≤ rt.config.maxFrameSize) (env : Surroundings) :
    ending ((select env (.read (.ok c))).result rt) =
        (drain decodeRound rt.io (rt.readBuf ++ c)).2 ∧
      ((select env (.read (.ok c))).result rt).final.config = rt.config := by
  rw [select_read hc, if_neg (Nat.not_lt.2 hfit)]
  have hfuel : (rt.received c).readBuf.length < (rt.readBuf ++ c).length + 1 + env.spin :=
    Nat.lt_of_lt_of_le (Nat.lt_succ_self _) (Nat.le_add_right _ _)
  exact decodeLoop_ending hdec hfuel

/-- No read that the task gets to leaves it with more than `max_frame_size` bytes. -/
def Fits (env : Surroundings) (rt : StreamConnectionRuntime P) (chunks : List Bytes) : Prop :=
  ∀ before c after rt', chunks = before ++ c :: after →
    (run env (reads before)).result rt = .ok none rt' →
    (rt'.readBuf ++ c).length ≤ rt'.config.maxFrameSize

theorem Fits.tail {env : Surroundings} (h : Fits env rt (c :: cs))
    (hc : (select env (.read (.ok c))).result rt = .ok none rt') : Fits env rt' cs := by
  intro before c' after rt'' hcs hrun
  refine h (c :: before) c' after rt'' (congrArg (c :: ·) hcs) ?_
  rw [reads_cons, run_cons, hc]
  exact hrun

/-- Where the size check never fails, a connection does what the rounds do. -/
theorem run_reads_ending (hdec : P.Progresses) (env : Surroundings)
    {chunks : List Bytes} (hne : ∀ c ∈ chunks, c ≠ []) (hfits : Fits env rt chunks) :
    ending ((run env (reads chunks)).result rt) =
      (feed decodeRound rt.io rt.readBuf chunks).2 := by
  induction chunks generalizing rt with
  | nil => rfl
  | cons c cs ih =>
    have hfit := hfits [] c cs rt rfl rfl
    have hread := (select_read_ending hdec (hne c List.mem_cons_self) hfit env).1
    rw [feed_cons]
    cases hsel : (select env (.read (.ok c))).result rt with
    | ok closed rt' =>
      rw [hsel] at hread
      cases closed with
      | none =>
        rw [resume_of_waiting hread.symm]
        rw [reads_cons, run_cons, hsel]
        exact ih (fun c hc => hne c (List.mem_cons_of_mem _ hc)) (hfits.tail hsel)
      | some reason =>
        rw [resume_of_failed hread.symm, ← hread]
        exact congrArg ending (result_bind_of_ok hsel)
    | error e rt' =>
      rw [hsel] at hread
      rw [resume_of_failed hread.symm, ← hread]
      exact congrArg ending (result_bind_of_error hsel)

/-- The close reason of a run; none if it is open, or ended in a panic or a hang. -/
def closeReason : EStateM.Result (Exit ConnectionFailure) (StreamConnectionRuntime P)
    (Option CloseReason) → Option CloseReason
  | .ok closed _ => closed
  | .error (.err failure) _ => some failure.reason
  | .error _ _ => none

theorem handedBy_ending (r : EStateM.Result (Exit ConnectionFailure) (StreamConnectionRuntime P)
    (Option CloseReason)) : handedBy (ending r) = r.final.io.history.handed := by
  cases r with
  | ok closed rt => cases closed <;> rfl
  | error e rt => rfl

theorem closedBy_ending (r : EStateM.Result (Exit ConnectionFailure) (StreamConnectionRuntime P)
    (Option CloseReason)) : closedBy (ending r) = closeReason r := by
  cases r with
  | ok closed rt => cases closed <;> rfl
  | error e rt => cases e <;> rfl

/-- A chunk that is too much closes the connection. -/
theorem closeReason_of_not_fits {env : Surroundings} {chunks : List Bytes}
    (hne : ∀ c ∈ chunks, c ≠ []) (h : ¬Fits env rt chunks) :
    closeReason ((run env (reads chunks)).result rt) = some .frameTooLarge := by
  simp only [Fits, not_forall] at h
  obtain ⟨before, c, after, rt', rfl, hrun, hlarge⟩ := h
  induction before generalizing rt with
  | nil =>
    cases hrun
    have hsel := (select_read (hne c List.mem_cons_self) env).trans
      (if_pos (Nat.lt_of_not_le hlarge))
    exact congrArg closeReason (result_bind_of_error hsel)
  | cons b before ih =>
    rw [reads_cons, run_cons] at hrun
    rw [List.cons_append, reads_cons, run_cons]
    cases hsel : (select env (.read (.ok b))).result rt with
    | ok closed rt₁ =>
      cases closed with
      | none =>
        rw [hsel] at hrun
        exact ih (fun c hc => hne c (List.mem_cons_of_mem _ hc)) hrun
      | some reason =>
        rw [hsel] at hrun
        cases hrun
    | error e rt₁ =>
      rw [hsel] at hrun
      cases hrun

/-- The cuts of a stream lead the rounds to the same messages and the same close reason. -/
theorem feed_cut (hdec : P.SegmentationIndependent) (s : StreamState P) {chunks chunks' : List Bytes}
    (hne : ∀ c ∈ chunks, c ≠ []) (hne' : ∀ c ∈ chunks', c ≠ [])
    (hcut : chunks.flatten = chunks'.flatten) :
    handedBy (feed decodeRound s [] chunks).2 = handedBy (feed decodeRound s [] chunks').2 ∧
      closedBy (feed decodeRound s [] chunks).2 = closedBy (feed decodeRound s [] chunks').2 := by
  have hwhole (c : Bytes) (cs : List Bytes) :
      handedBy (feed decodeRound s [] (c :: cs)).2 =
          handedBy (drain decodeRound s (c :: cs).flatten).2 ∧
        closedBy (feed decodeRound s [] (c :: cs)).2 =
          closedBy (drain decodeRound s (c :: cs).flatten).2 := by
    rw [feed_cons]
    have hsim := (resume_drain_sim s ([] ++ c) cs fun s' b' cs' _ =>
      decodeRound_stable hdec s' b' cs'.flatten).2
    generalize (resume decodeRound cs (drain decodeRound s ([] ++ c))).2 = x at hsim ⊢
    generalize hy : (drain decodeRound s ([] ++ c ++ cs.flatten)).2 = y at hsim
    rw [show drain decodeRound s (c :: cs).flatten = drain decodeRound s ([] ++ c ++ cs.flatten)
      from rfl, hy]
    cases hsim with
    | waiting => exact ⟨rfl, rfl⟩
    | failed h => exact ⟨h.2, h.1⟩
  cases chunks with
  | nil =>
    cases chunks' with
    | nil => exact ⟨rfl, rfl⟩
    | cons c cs =>
      have := hne' c List.mem_cons_self
      simp_all
  | cons c cs =>
    cases chunks' with
    | nil =>
      have := hne c List.mem_cons_self
      simp_all
    | cons c' cs' =>
      obtain ⟨h₁, h₂⟩ := hwhole c cs
      obtain ⟨h₁', h₂'⟩ := hwhole c' cs'
      rw [hcut] at h₁ h₂
      exact ⟨h₁.trans h₁'.symm, h₂.trans h₂'.symm⟩

/-- Two cuts of a stream hand the same messages to the pipeline, and neither closes the connection
for the size of a frame. -/
structure Insensitive (env : Surroundings) (rt : StreamConnectionRuntime P)
    (chunks chunks' : List Bytes) : Prop where
  handed : ((run env (reads chunks)).result rt).final.io.history.handed =
    ((run env (reads chunks')).result rt).final.io.history.handed
  left : closeReason ((run env (reads chunks)).result rt) ≠ some .frameTooLarge
  right : closeReason ((run env (reads chunks')).result rt) ≠ some .frameTooLarge

/-- The cut of a stream does not matter exactly when no read that is reached puts more than
`max_frame_size` bytes into the buffer, with complete frames among them or not, and the pipeline
does not itself find a frame too large. -/
theorem insensitive_iff (hdec : P.SegmentationIndependent) (env : Surroundings)
    (hempty : rt.readBuf = []) {chunks chunks' : List Bytes} (hne : ∀ c ∈ chunks, c ≠ [])
    (hne' : ∀ c ∈ chunks', c ≠ []) (hcut : chunks.flatten = chunks'.flatten) :
    Insensitive env rt chunks chunks' ↔
      Fits env rt chunks ∧ Fits env rt chunks' ∧
        closedBy (feed decodeRound rt.io [] chunks).2 ≠ some .frameTooLarge := by
  have hrun {chunks : List Bytes} (hne : ∀ c ∈ chunks, c ≠ []) (h : Fits env rt chunks) :
      ((run env (reads chunks)).result rt).final.io.history.handed =
          handedBy (feed decodeRound rt.io [] chunks).2 ∧
        closeReason ((run env (reads chunks)).result rt) =
          closedBy (feed decodeRound rt.io [] chunks).2 := by
    rw [← handedBy_ending, ← closedBy_ending, run_reads_ending hdec.progresses env hne h, hempty]
    exact ⟨rfl, rfl⟩
  constructor
  · intro h
    have hfits : Fits env rt chunks := by
      by_contra hlarge
      exact h.left (closeReason_of_not_fits hne hlarge)
    have hfits' : Fits env rt chunks' := by
      by_contra hlarge
      exact h.right (closeReason_of_not_fits hne' hlarge)
    exact ⟨hfits, hfits', (hrun hne hfits).2 ▸ h.left⟩
  · rintro ⟨hfits, hfits', hown⟩
    obtain ⟨hhanded, hclosed⟩ := feed_cut hdec rt.io hne hne' hcut
    constructor
    · rw [(hrun hne hfits).1, (hrun hne' hfits').1, hhanded]
    · rw [(hrun hne hfits).2]
      exact hown
    · rw [(hrun hne' hfits').2, ← hclosed]
      exact hown

/-- Two reads bring a frame, or one read does. -/
theorem insensitive_iff_frame :
    let rt := new {} (FixedLengthFrameDecoder.echoPipeline ⟨4, by decide⟩) { maxFrameSize := 4 } true
    let env : Surroundings := ⟨fun _ => "", 0⟩
    Insensitive env rt [[1, 2], [3, 4]] [[1, 2, 3, 4]] ∧
      (Insensitive env rt [[1, 2], [3, 4]] [[1, 2, 3, 4]] ↔
        Fits env rt [[1, 2], [3, 4]] ∧ Fits env rt [[1, 2, 3, 4]] ∧
          closedBy (feed decodeRound rt.io [] [[1, 2], [3, 4]]).2 ≠ some .frameTooLarge) := by
  refine ⟨⟨?_, ?_, ?_⟩, ?_⟩
  · decide +kernel
  · decide +kernel
  · decide +kernel
  · exact insensitive_iff FixedLengthFrameDecoder.echo_independent _ rfl (by decide) (by decide) rfl

/-- Two frames of `max_frame_size` bytes that one read brings close the connection. -/
theorem not_insensitive_two_frames :
    FixedLengthFrameDecoder.echo.SegmentationIndependent ∧
      ¬Insensitive ⟨fun _ => "", 0⟩
        (new {} (FixedLengthFrameDecoder.echoPipeline ⟨4, by decide⟩) { maxFrameSize := 4 } true)
        [[1, 2, 3, 4, 5, 6, 7, 8]] [[1, 2, 3, 4], [5, 6, 7, 8]] := by
  refine ⟨FixedLengthFrameDecoder.echo_independent, fun h => h.left ?_⟩
  decide

end StreamConnectionRuntime

end RsNetty

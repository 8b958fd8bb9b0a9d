import Mathlib.Data.List.Induction
import RsNetty.Verify.Tcp.Outbound

/-!
# The counters of a TCP connection

A task that is back at its `select!` has counted what happened, as long as no outbound stage stopped
the message of a command: `handle_command` counts a frame for such a message, `encode_outbound`
does not.
-/

namespace RsNetty
open EStateM Traced

variable {P : StreamStages}

/-- A frame was encoded for the message. -/
def Processed.encoded (p : Processed P) : Bool :=
  match p.run with
  | .ok encoded _ => encoded
  | .error _ _ => false

/-- The number of messages that were encoded. -/
def framesEncoded (processed : List (Processed P)) : Nat := processed.countP (·.encoded)

theorem framesEncoded_concat (processed : List (Processed P)) (p : Processed P) :
    framesEncoded (processed ++ [p]) = framesEncoded processed + p.encoded.toNat := by
  rw [framesEncoded, List.countP_append, List.countP_singleton, framesEncoded]
  cases p.encoded <;> rfl

/-- A stage stops the message. -/
def StreamStages.stops (P : StreamStages) (outbound : P.OutP) (msg : P.Write) : Bool :=
  match P.outbound msg outbound with
  | .ok .stop _ => true
  | _ => false

/-- A frame is encoded unless a stage stops the message. -/
theorem Processed.encoded_of_run {p : Processed P} (h : p.run = .ok b t) :
    p.encoded = b ∧ b = !P.stops p.outbound p.msg := by
  constructor
  · rw [Processed.encoded, h]
  · obtain ⟨flow, s, hflow, h⟩ := bind_eq_ok.1 h
    obtain ⟨outbound', houtbound, -⟩ := zoom_eq_ok.1 hflow
    have houtbound : P.outbound p.msg p.outbound = .ok flow outbound' := houtbound
    rw [StreamStages.stops, houtbound]
    cases flow with
    | stop =>
      cases h
      rfl
    | next out =>
      obtain ⟨_, _, -, h⟩ := bind_eq_ok.1 h
      cases h
      rfl

namespace StreamState

/-- What the counters of writing have to show. -/
def written (s : StreamState P) : WriteStats where
  bytesWritten := .ofNat s.stream.sent.length
  framesWritten := .ofNat (framesEncoded s.history.processed)

/-- On a socket that has not failed, `handed` messages in, the counters of writing are right but for
a surplus of frames. -/
structure Metered (surplus handed : Nat) (s : StreamState P) : Prop where
  written : s.stats = some { s.written with
    framesWritten := .ofNat (framesEncoded s.history.processed + surplus) }
  handed : s.history.handed.length = handed
  reliable : s.stream.faults = []

variable {s : StreamState P} {k n : Nat} {msg : P.Write}

/-- What the outbound side leaves when it does not fail. -/
theorem outboundFrame_metered (h : s.Metered k n) (hx : outboundFrame msg s = .ok encoded t) :
    encoded = !P.stops s.pipeline.outbound msg ∧
      (if encoded then (t.count .addFrameWritten).Metered k n else t.Metered k n) ∧
      (t.count .addFrameWritten).Metered (k + (!encoded).toNat) n := by
  let p : Processed P := ⟨s.pipeline.outbound, s.pipeline.codec, s.writeBuf, msg⟩
  obtain ⟨t', hrun, rfl⟩ := zoom_eq_ok.1 hx
  obtain ⟨hp, hencoded⟩ := Processed.encoded_of_run (p := p) hrun
  have hframes := framesEncoded_concat s.history.processed p
  rw [hp] at hframes
  have hcounted (l : Nat) (hl : framesEncoded s.history.processed + k + 1 =
      framesEncoded (s.history.processed ++ [p]) + l) :
      ((outboundPart.set t' (s.processing msg)).count .addFrameWritten).Metered l n := by
    refine ⟨?_, h.handed, h.reliable⟩
    change s.stats.map .addFrameWritten = some { s.written with
      framesWritten := .ofNat (framesEncoded (s.history.processed ++ [p]) + l) }
    rw [h.written, ← hl, UInt64.ofNat_add _ 1]
    rfl
  refine ⟨hencoded, ?_, hcounted _ ?_⟩
  · cases encoded with
    | true => exact hcounted k (by rw [hframes, Bool.toNat_true]; omega)
    | false =>
      refine ⟨?_, h.handed, h.reliable⟩
      change s.stats = some { s.written with
        framesWritten := .ofNat (framesEncoded (s.history.processed ++ [p]) + k) }
      rw [h.written, hframes]
      rfl
  · rw [hframes]
    cases encoded <;> simp <;> omega

/-- `encode_outbound` counts the frames that are encoded. -/
theorem encodeOutbound_metered (h : s.Metered k n) :
    (encodeOutbound msg s).Holds (fun _ => Metered k n) fun _ _ => True := by
  cases hx : outboundFrame msg s with
  | error e t => rw [encodeOutbound, bind_of_error hx]; trivial
  | ok encoded t =>
    have ht := (outboundFrame_metered h hx).2.1
    rw [encodeOutbound, bind_of_ok hx]
    cases encoded with
    | false => exact ht
    | true => exact ht

/-- A message that a stage stops is not an error. -/
theorem outboundFrame_of_stops (h : P.stops s.pipeline.outbound msg) :
    ∃ t, outboundFrame msg s = .ok false t := by
  unfold StreamStages.stops at h
  split at h
  next outbound' hstop =>
    have hframe : P.outboundFrame msg (outboundPart.get (s.processing msg)) =
        .ok false (outbound', s.pipeline.codec, s.writeBuf) := by
      have hflow : EStateM.zoom Component.fst (P.outbound msg)
          (s.pipeline.outbound, s.pipeline.codec, s.writeBuf) = .ok .stop _ := zoom_of_ok hstop
      exact bind_of_ok hflow
    exact ⟨_, zoom_of_ok hframe⟩
  next => cases h

/-- The outbound side of a command and its count. -/
theorem processOutbound_metered (msg : P.Write) (h : s.Metered k n) :
    (processOutbound msg s).Holds (fun _ t => (t.count .addFrameWritten).Metered
        (k + (P.stops s.pipeline.outbound msg).toNat) n)
      fun _ _ => P.stops s.pipeline.outbound msg = false := by
  cases hx : outboundFrame msg s with
  | error e t =>
    rw [processOutbound, bind_of_error hx]
    apply Bool.eq_false_of_not_eq_true
    intro hstops
    obtain ⟨t', ht'⟩ := outboundFrame_of_stops hstops
    cases hx.symm.trans ht'
  | ok encoded t =>
    obtain ⟨hencoded, -, ht⟩ := outboundFrame_metered h hx
    rw [hencoded, Bool.not_not] at ht
    rw [processOutbound, bind_of_ok hx]
    exact ht

/-- A flush counts the bytes that it hands to the socket. -/
theorem flushWriteBuf_metered (h : s.Metered k n) :
    ∃ t, flushWriteBuf s = .ok () t ∧ t.Metered k n := by
  rw [flushWriteBuf, get_bind]
  by_cases hempty : s.writeBuf = []
  · rw [if_neg (not_not.2 hempty)]
    exact ⟨s, rfl, h⟩
  · rw [if_pos hempty, bind_of_ok (zoom_of_ok (TcpStream.writeAll_reliable h.reliable _))]
    refine ⟨_, rfl, ?_, h.handed, h.reliable⟩
    change s.stats.map _ = _
    rw [h.written]
    simp [written, WriteStats.addBytesWritten, streamPart, count]

/-! ## Draining the outbox -/

/-- A program on the connection that keeps the counters right, unless it fails. -/
abbrev Meters {α : Type} (k n m : Nat) (x : Traced (Exit Error) (StreamState P) α) : Prop :=
  Triple (fun _ => True) (Metered k n) x (fun _ => Metered k m) fun _ _ => True

/-- A flush does not fail where the socket does not. -/
theorem flushWriteBuf_meters (k n : Nat) :
    Triple (fun _ => True) (Metered k n) (await (flushWriteBuf (P := P))) (fun _ => Metered k n)
      fun _ _ => False := by
  refine await_triple fun s hs => ?_
  obtain ⟨t, ht, hmetered⟩ := flushWriteBuf_metered hs
  rw [ht]
  exact ⟨trivial, hmetered⟩

theorem drainCommands_meters (k n : Nat) (commands : List (StreamOutboxCommand P.Write)) :
    Meters k n n (drainCommands commands) := by
  apply drainCommands_triple (J := fun _ => Metered k n)
  · intro msg commands
    refine await_triple fun s hs => ?_
    exact (encodeOutbound_metered hs).mono (fun _ t ht => ⟨trivial, ht⟩) fun _ _ _ => by simp
  · intro done commands s hs
    obtain ⟨t, ht, hmetered⟩ := flushWriteBuf_metered hs
    rw [ht]
    exact ⟨trivial, trivial, hmetered.written, hmetered.handed, hmetered.reliable⟩

theorem drainStreamOutbox_meters (k n : Nat) (flushAtEnd : Bool) :
    Meters k n n (drainStreamOutbox (P := P) flushAtEnd) := by
  apply Triple.bind (Q := fun _ => Metered k n)
  · exact await_triple fun s hs => ⟨trivial, hs.written, hs.handed, hs.reliable⟩
  · intro commands
    refine Triple.bind (drainCommands_meters k n commands) fun _ => ?_
    cases flushAtEnd with
    | false => exact Triple.pure fun s hs => hs
    | true =>
      exact (flushWriteBuf_meters k n).mono (fun s hs => hs) (fun _ s hs => hs)
        fun _ _ _ => trivial

/-! ## One inbound message -/

theorem runHandler_meters (k n : Nat) (msg : P.CurrentIn) : Meters k n n (runHandler msg) := by
  apply runHandler_triple (S := Metered k n)
  · exact fun _ _ => trivial
  · exact fun _ _ _ => trivial
  · exact fun _ hs => hs
  · intro future
    apply handlerRuntime.pollHandler_triple
    · exact fun s _ => trivial
    · exact fun msg s hs => ⟨hs.written, hs.handed, hs.reliable⟩
    · exact await_triple fun s hs => ⟨trivial, hs.written, hs.handed, hs.reliable⟩
    · exact fun s hs => ⟨hs.written, hs.handed, hs.reliable⟩
    · exact drainStreamOutbox_meters k n false
    · exact fun s _ => trivial
    · exact fun s _ => trivial
  · exact fun _ s hs => ⟨hs.written, hs.handed, hs.reliable⟩
  · exact drainStreamOutbox_meters k n true

theorem processInboundFlushable_meters (k n : Nat) (msg : P.Item) :
    Meters k n (n + 1) (processInboundFlushable msg) := by
  refine processInboundFlushable_triple (fun _ _ => trivial) (fun _ _ _ => trivial) ?_ ?_ ?_
    (runHandler_meters k (n + 1))
  · intro s hs
    refine ⟨hs.written, ?_, hs.reliable⟩
    rw [hand, List.length_append, hs.handed, List.length_singleton]
  · exact fun t s hs => ⟨hs.written, hs.handed, hs.reliable⟩
  · exact fun t s hs => ⟨hs.written, hs.handed, hs.reliable⟩

end StreamState

/-! ## The connection task -/

namespace StreamConnectionRuntime
open StreamState

/-- What the counters of reading have to show. A message that is decoded is handed to the pipeline
at once. -/
def counted (rt : StreamConnectionRuntime P) : ReadStats where
  bytesRead := .ofInt (rt.consumed + rt.readBuf.length)
  framesRead := .ofNat rt.io.history.handed.length

/-- The counters, which wrap around at `2 ^ 64`, equal what happened. -/
structure Counted (rt : StreamConnectionRuntime P) : Prop where
  read : rt.stats = some rt.counted
  written : rt.io.stats = some rt.io.written

/-- All reads are counted and `counted` frames, of which `handed` have reached the pipeline. -/
structure Counting (surplus counted handed : Nat) (rt : StreamConnectionRuntime P) : Prop where
  read : rt.stats = some { rt.counted with framesRead := .ofNat counted }
  metered : rt.io.Metered surplus handed

/-- The counters at a `select!`, right but for a surplus of frames written. -/
def Accounted (surplus : Nat) (rt : StreamConnectionRuntime P) : Prop :=
  ∃ n, Counting surplus n n rt

variable {rt : StreamConnectionRuntime P} {k : Nat}

theorem Accounted.counted_iff (h : rt.Accounted k) : rt.Counted ↔ UInt64.ofNat k = 0 := by
  obtain ⟨n, hread, hmetered⟩ := h
  have hwritten : rt.io.stats = some rt.io.written ↔ UInt64.ofNat k = 0 := by
    rw [hmetered.written, written, Option.some_inj, WriteStats.mk.injEq, UInt64.ofNat_add]
    simp
  constructor
  · exact fun hcounted => hwritten.1 hcounted.written
  · intro hk
    refine ⟨?_, hwritten.2 hk⟩
    rw [hread, counted, ← hmetered.handed]

/-- The message a command writes. -/
def msgOf? : Event P.Write → Option P.Write
  | .command (some (.write msg)) => some msg
  | .command (some (.writeAndFlush msg _)) => some msg
  | _ => none

/-- The message of the command is stopped by a stage. -/
def surplus (event : Event P.Write) (rt : StreamConnectionRuntime P) : Nat :=
  match msgOf? event with
  | some msg => (P.stops rt.io.pipeline.outbound msg).toNat
  | none => 0

/-- A part of the task that keeps an account of the counters, unless it fails. -/
abbrev Accounts {α : Type} (P₀ : StreamConnectionRuntime P → Prop) (x : Task P α)
    (Q : StreamConnectionRuntime P → Prop) : Prop :=
  Triple (fun _ => True) P₀ x (fun _ => Q) fun _ _ => True

theorem accounts_modify {f : StreamConnectionRuntime P → StreamConnectionRuntime P}
    {P₀ Q : StreamConnectionRuntime P → Prop} (h : ∀ rt, P₀ rt → Q (f rt)) :
    Accounts P₀ (step (modify f)) Q :=
  Triple.step fun rt hrt => ⟨trivial, h rt hrt⟩

/-- The pipeline does not touch the buffer and the counters of reading. -/
theorem onIo_accounts {α : Type} {failure : Error → ConnectionFailure}
    {x : Traced (Exit Error) (StreamState P) α} {c n m : Nat} (h : Meters k n m x) :
    Accounts (Counting k c n) (onIo failure x) (Counting k c m) := by
  apply Triple.zoom
  intro rt hrt
  apply Triple.mapError
  refine h.mono ?_ ?_ fun _ _ _ => trivial
  · exact fun s hs => hs ▸ hrt.metered
  · exact fun _ s hs => ⟨hrt.read, hs⟩

theorem decode_accounts : Accounts (P := P) (Accounted k) decode (Accounted k) := by
  apply Triple.mapError
  refine await_zoom_triple (fun _ _ => trivial) (fun _ _ _ => trivial) fun t rt ⟨n, hrt⟩ => ?_
  refine ⟨n, ?_, hrt.metered.written, hrt.metered.handed, hrt.metered.reliable⟩
  have hbytes : rt.consumed + (rt.readBuf.length - t.2.length) + t.2.length =
      rt.consumed + rt.readBuf.length := by omega
  change rt.stats = some ⟨.ofInt (rt.consumed + (rt.readBuf.length - t.2.length) + t.2.length), _⟩
  rw [hbytes]
  exact hrt.read

theorem decodeLoop_accounts (fuel : Nat) :
    Accounts (P := P) (Accounted k) (decodeLoop fuel) (Accounted k) := by
  apply decodeLoop_triple (M := fun rt => ∃ n, rt.Counting k (n + 1) n)
  · exact fun _ _ _ => trivial
  · exact decode_accounts
  · refine accounts_modify fun rt ⟨n, hrt⟩ => ⟨n, ?_, hrt.metered⟩
    change rt.stats.map _ = _
    rw [hrt.read, UInt64.ofNat_add]
    rfl
  · intro msg rt ⟨n, hrt⟩
    have hmeters : Accounts (Counting k (n + 1) n)
        (onIo handlerFailure (processInboundFlushable msg)) (Counting k (n + 1) (n + 1)) :=
      onIo_accounts (processInboundFlushable_meters k n msg)
    exact (hmeters.mono (fun _ h => h) (fun _ _ h => ⟨n + 1, h⟩) fun _ _ h => h) rt hrt

theorem ofInt_natCast (n : Nat) : UInt64.ofInt n = .ofNat n := by
  rw [UInt64.ofInt]
  norm_cast
  exact UInt64.ofNat_mod_size

/-- A read, whose bytes reach the buffer before they are counted. -/
theorem handleRead_accounts (env : Surroundings) (readLen n : Nat) :
    Accounts (P := P) (fun rt => rt.stats = some
        ⟨.ofInt (rt.consumed + rt.readBuf.length - readLen), .ofNat n⟩ ∧ rt.io.Metered k n)
      (handleRead env (.ok readLen)) (Accounted k) := by
  apply handleRead_triple
  · exact fun _ _ _ => trivial
  · intro hzero rt hrt
    refine ⟨n, ?_, hrt.2⟩
    rw [hrt.1, hzero, Nat.cast_zero, sub_zero]
    rfl
  · refine accounts_modify fun rt hrt => ⟨n, ?_, hrt.2⟩
    change rt.stats.map (ReadStats.addBytesRead readLen) =
      some ⟨.ofInt (rt.consumed + rt.readBuf.length), .ofNat n⟩
    rw [hrt.1, Option.map_some, ReadStats.addBytesRead]
    dsimp only
    rw [← ofInt_natCast, ← UInt64.ofInt_add, sub_add_cancel]
  · exact decodeLoop_accounts

/-- The message of a command; a frame is counted for it also if it is stopped. -/
theorem writeMessage_accounts (outbound : P.OutP) (n : Nat) (msg : P.Write) :
    Triple (fun _ => True) (fun rt => rt.Counting k n n ∧ rt.io.pipeline.outbound = outbound)
      (writeMessage msg) (fun _ => Accounted (k + (P.stops outbound msg).toNat))
      fun _ _ => P.stops outbound msg = false := by
  let l := k + (P.stops outbound msg).toNat
  apply Triple.bind (Q := fun _ rt => rt.Counting k n n ∧ rt.io.pipeline.outbound = outbound)
  · refine Triple.step fun rt ⟨hrt, houtbound⟩ => ⟨trivial, ⟨hrt.read, ?_⟩, houtbound⟩
    exact ⟨hrt.metered.written, hrt.metered.handed, hrt.metered.reliable⟩
  · intro _
    apply Triple.bind (Q := fun _ rt =>
      rt.stats = some { rt.counted with framesRead := .ofNat n } ∧
        (rt.io.count .addFrameWritten).Metered l n)
    · apply Triple.zoom
      rintro rt ⟨hcounting, houtbound⟩
      apply Triple.mapError
      refine await_triple fun s hs => ?_
      subst hs
      have hprocess := processOutbound_metered msg hcounting.metered
      rw [houtbound] at hprocess
      exact hprocess.mono (fun _ s hs => ⟨trivial, hcounting.read, hs⟩) fun _ _ he => ⟨trivial, he⟩
    · intro _
      apply Triple.bind (Q := fun _ => Counting l n n)
      · exact Triple.step fun rt hrt => ⟨trivial, hrt.1, hrt.2⟩
      · intro _
        apply Triple.zoom
        intro rt hrt
        apply Triple.mapError
        refine (flushWriteBuf_meters l n).mono ?_ ?_ fun _ _ he => he.elim
        · exact fun s hs => hs ▸ hrt.metered
        · exact fun _ s hs => ⟨n, hrt.read, hs⟩

/-- A turn of the loop that adds to the surplus, and does not end the run unless it adds nothing. -/
abbrev TurnAccounts (k added : Nat) (rt : StreamConnectionRuntime P)
    (x : Task P (Option CloseReason)) : Prop :=
  Triple (fun _ => True) (· = rt) x
    (fun closed t => t.Accounted (k + added) ∧ (closed = none ∨ added = 0)) fun _ _ => added = 0

/-- A turn without a message of a command adds nothing. -/
theorem TurnAccounts.plain {x : Task P (Option CloseReason)}
    (h : Accounts (· = rt) x (Accounted k)) : TurnAccounts k 0 rt x :=
  h.mono (fun _ ht => ht) (fun _ _ ht => ⟨ht, .inr rfl⟩) fun _ _ _ => rfl

theorem read_accounts (env : Surroundings) (bytes : Bytes) (h : rt.Accounted k) :
    TurnAccounts k 0 rt (select env (.read (.ok bytes))) := by
  obtain ⟨n, hread, hmetered⟩ := h
  apply TurnAccounts.plain
  apply Triple.bind
  · apply accounts_modify (Q := fun t => t.stats = some
      ⟨.ofInt (t.consumed + t.readBuf.length - bytes.length), .ofNat n⟩ ∧ t.io.Metered k n)
    rintro t rfl
    refine ⟨?_, hmetered⟩
    have hbytes : t.consumed + (t.readBuf ++ bytes).length - bytes.length =
        t.consumed + t.readBuf.length := by
      rw [List.length_append]
      omega
    change t.stats = some ⟨.ofInt (t.consumed + (t.readBuf ++ bytes).length - bytes.length), _⟩
    rw [hbytes]
    exact hread
  · exact fun _ => handleRead_accounts env bytes.length n

theorem write_accounts (env : Surroundings) (msg : P.Write) (h : rt.Accounted k) :
    TurnAccounts k (P.stops rt.io.pipeline.outbound msg).toNat rt
      (select env (.command (some (.write msg)))) := by
  obtain ⟨n, hn⟩ := h
  apply Triple.bind (Q := fun _ => Accounted (k + (P.stops rt.io.pipeline.outbound msg).toNat))
  · refine (writeMessage_accounts rt.io.pipeline.outbound n msg).mono ?_ (fun _ t ht => ht) ?_
    · rintro t rfl
      exact ⟨hn, rfl⟩
    · exact fun _ _ he => congrArg Bool.toNat he
  · exact fun _ => Triple.pure fun t ht => ⟨ht, .inl rfl⟩

theorem writeAndFlush_accounts (env : Surroundings) (msg : P.Write) (done : Sender)
    (h : rt.Accounted k) :
    TurnAccounts k (P.stops rt.io.pipeline.outbound msg).toNat rt
      (select env (.command (some (.writeAndFlush msg done)))) := by
  obtain ⟨n, hn⟩ := h
  have hwrite := writeMessage_accounts (k := k) rt.io.pipeline.outbound n msg
  refine writeAndFlush_triple (Triple.step fun t ht => ?_) hwrite ?_ ?_ ?_ ?_ env
  · subst ht
    exact ⟨trivial, ⟨hn.read, hn.metered⟩, rfl⟩
  · intro t ⟨n, hn⟩
    exact ⟨trivial, ⟨n, hn.read, hn.metered⟩, .inl rfl⟩
  · exact fun _ _ _ he => ⟨trivial, congrArg Bool.toNat he⟩
  · exact fun _ he => congrArg Bool.toNat he
  · exact fun _ he => congrArg Bool.toNat he

/-- A command whose message is stopped adds one. -/
theorem select_accounts (env : Surroundings) (event : Event P.Write)
    (rt : StreamConnectionRuntime P) (h : rt.Accounted k) :
    TurnAccounts k (surplus event rt) rt (select env event) := by
  cases event with
  | read read =>
    cases read with
    | error err => exact .plain (Triple.fail fun _ _ => trivial)
    | ok bytes => exact read_accounts env bytes h
  | command cmd =>
    cases cmd with
    | none => exact .plain (Triple.pure fun t ht => ht ▸ h)
    | some cmd =>
      cases cmd with
      | close => exact .plain (Triple.pure fun t ht => ht ▸ h)
      | write msg => exact write_accounts env msg h
      | writeAndFlush msg done => exact writeAndFlush_accounts env msg done h
  | shutdown => exact .plain (Triple.pure fun t ht => ht ▸ h)
  | idle =>
    refine .plain (Triple.look_bind fun t ht => ?_)
    split
    · exact Triple.pure fun t' ht' => ht' ▸ ht ▸ h
    · exact Triple.pure fun t' ht' => ht' ▸ ht ▸ h

theorem accounted_of_select {env : Surroundings} {event : Event P.Write} (h : rt.Accounted k)
    (hselect : (select env event).result rt = .ok closed t) :
    t.Accounted (k + surplus event rt) := by
  have := (select_accounts env event rt h rt rfl).2
  rw [hselect] at this
  exact this.1

/-- A task that carries out a command whose message is stopped is back at its `select!`. -/
theorem waits_of_surplus {event : Event P.Write} (h : rt.Accounted k)
    (hsurplus : surplus event rt ≠ 0) (env : Surroundings) :
    ∃ t, (select env event).result rt = .ok none t := by
  have := (select_accounts env event rt h rt rfl).2
  cases hselect : (select env event).result rt with
  | ok closed t =>
    rw [hselect] at this
    exact ⟨t, by rw [this.2.resolve_right hsurplus]⟩
  | error e t =>
    rw [hselect] at this
    exact absurd this hsurplus

/-- A task that waits has an account of its counters. -/
theorem accounted_of_run {env : Surroundings} {events : List (Event P.Write)} (h : rt.Accounted k)
    (hrun : (run env events).result rt = .ok none t) : ∃ l, t.Accounted l := by
  induction events using List.reverseRecOn generalizing t with
  | nil =>
    cases hrun
    exact ⟨k, h⟩
  | append_singleton before event ih =>
    obtain ⟨s, hbefore, hselect⟩ := run_concat_eq_open.1 hrun
    obtain ⟨l, hl⟩ := ih hbefore
    exact ⟨_, accounted_of_select hl hselect⟩

/-- Whenever the task waits in the course of these events, its counters are right. -/
def CountedThroughout (env : Surroundings) (rt : StreamConnectionRuntime P)
    (events : List (Event P.Write)) : Prop :=
  ∀ before after t, events = before ++ after → (run env before).result rt = .ok none t → t.Counted

/-- A command comes whose message an outbound stage stops. -/
def DropsCommand (env : Surroundings) (rt : StreamConnectionRuntime P)
    (events : List (Event P.Write)) : Prop :=
  ∃ before event after t msg, events = before ++ event :: after ∧
    (run env before).result rt = .ok none t ∧ msgOf? event = some msg ∧
    P.stops t.io.pipeline.outbound msg

theorem new_accounted (pipeline : StreamPipeline P) (config : TcpConnectionConfig) :
    (new {} pipeline config true).Accounted 0 :=
  ⟨0, rfl, rfl, rfl, rfl⟩

/-- The counters of a run whose socket does not fail are right at each `select!` exactly when no
outbound stage stops the message of a command. -/
theorem countedThroughout_iff (env : Surroundings) (pipeline : StreamPipeline P)
    (config : TcpConnectionConfig) (events : List (Event P.Write)) :
    let rt := new {} pipeline config true
    CountedThroughout env rt events ↔ ¬DropsCommand env rt events := by
  intro rt
  have hnew : rt.Accounted 0 := new_accounted pipeline config
  constructor
  · rintro hcounted ⟨before, event, after, t, msg, rfl, hrun, hmsg, hstops⟩
    have hsurplus : surplus event t = 1 := by
      simp [surplus, hmsg, hstops]
    obtain ⟨k, hk⟩ := accounted_of_run hnew hrun
    obtain ⟨t', hselect⟩ := waits_of_surplus hk (by rw [hsurplus]; exact one_ne_zero) env
    have hbefore := hk.counted_iff.1 (hcounted before _ t rfl hrun)
    have hk' := accounted_of_select hk hselect
    rw [hsurplus] at hk'
    have hafter := hk'.counted_iff.1 (hcounted (before ++ [event]) after t' (by simp)
      (run_concat_eq_open.2 ⟨t, hrun, hselect⟩))
    rw [UInt64.ofNat_add, hbefore] at hafter
    cases hafter
  · intro hkeep before after t hevents hrun
    suffices t.Accounted 0 from this.counted_iff.2 rfl
    subst hevents
    induction before using List.reverseRecOn generalizing t after with
    | nil =>
      cases hrun
      exact hnew
    | append_singleton before event ih =>
      obtain ⟨s, hbefore, hselect⟩ := run_concat_eq_open.1 hrun
      rw [List.append_assoc] at hkeep
      have hs := accounted_of_select (ih _ _ hbefore hkeep) hselect
      suffices surplus event s = 0 by rwa [this] at hs
      unfold surplus
      cases hmsg : msgOf? event with
      | none => rfl
      | some msg =>
        cases hstops : P.stops s.io.pipeline.outbound msg with
        | false => simp [hstops]
        | true => exact absurd ⟨before, event, after, s, msg, rfl, hbefore, hmsg, hstops⟩ hkeep

/-- A command writes a message that the outbound stage of its connection stops. -/
theorem not_countedThroughout_stopped :
    let P : StreamStages := { FixedLengthFrameDecoder.echo with outbound := fun _ => return .stop }
    let rt : StreamConnectionRuntime P := new {} ⟨⟨1, by decide⟩, (), (), (), ()⟩ {} true
    let env : Surroundings := ⟨fun _ => "", 0⟩
    let write := .command (some (.write [7]))
    (∃ t, (run env [write]).result rt = .ok none t ∧ t.io.stream.sent = [] ∧
      framesEncoded t.io.history.processed = 0 ∧ t.io.stats.map (·.framesWritten) = some 1) ∧
      ¬CountedThroughout env rt [write] := by
  intro P rt env write
  have hrun : ∃ t, (run env [write]).result rt = .ok none t ∧ t.io.stream.sent = [] ∧
      framesEncoded t.io.history.processed = 0 ∧ t.io.stats.map (·.framesWritten) = some 1 :=
    ⟨_, rfl, rfl, rfl, rfl⟩
  refine ⟨hrun, fun h => ?_⟩
  obtain ⟨t, ht, -, hencoded, hwritten⟩ := hrun
  rw [(h [write] [] t (List.append_nil _).symm ht).written, Option.map_some, StreamState.written,
    hencoded] at hwritten
  cases hwritten

end StreamConnectionRuntime

end RsNetty

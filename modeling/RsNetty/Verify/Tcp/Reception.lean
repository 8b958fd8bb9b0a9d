import RsNetty.Theory.Segmentation
import RsNetty.Transport.Tcp.Peers
import RsNetty.Verify.Tcp.Wire

/-!
# What a connection makes of a stream of words

A connection whose codec takes the words of a stream as wholes hands the messages of the words to
its pipeline, one after the other, however the stream is cut and whatever else the task does in
between. Between two turns less than a word is left in `read_buf`.
-/

namespace RsNetty
open EStateM Traced Segmentation

variable {P : StreamStages} {M : Type}

/-- A codec in `T` stays there, and takes the word of a good message as a whole. -/
structure StreamStages.DecodesAs (P : StreamStages) (T : P.C → Prop) (Good : M → Prop)
    (word : M → Bytes) (item : M → P.Item) : Prop where
  takes : Good m → T codec → ∃ codec', T codec' ∧ Takes P.decode codec (word m) (item m) codec'
  idle : T codec → P.decode (codec, []) = .ok none (codec, [])
  encode : T codec → P.encode out (codec, dst) = .ok () (codec', dst') → T codec'

namespace StreamState

variable {T : P.C → Prop} {items : List P.Item}

/-- The pipeline has been handed these messages. -/
structure Got (T : P.C → Prop) (items : List P.Item) (s : StreamState P) : Prop where
  codec : T s.pipeline.codec
  handed : s.history.handed = items

theorem steady_got
    (hencode : ∀ {codec codec' out dst dst'}, T codec →
      P.encode out (codec, dst) = .ok () (codec', dst') → T codec') :
    Steady (Got T items) fun s => s.history.handed = items where
  watched _ hs := hs.handed
  answered _ _ hs := hs
  frame msg s hs := by
    let p : Processed P := ⟨s.pipeline.outbound, s.pipeline.codec, s.writeBuf, msg⟩
    change (EStateM.zoom outboundPart (P.outboundFrame msg) (s.processing msg)).Holds _ _
    cases p.outcome with
    | @encoded out t o he hrun =>
      rw [zoom_of_ok (c := outboundPart) (s := s.processing msg) hrun]
      exact ⟨hencode hs.codec he, hs.handed⟩
    | stopped hrun =>
      rw [zoom_of_ok (c := outboundPart) (s := s.processing msg) hrun]
      exact ⟨hs.codec, hs.handed⟩
    | refused hrun =>
      rw [zoom_of_error (c := outboundPart) (s := s.processing msg) hrun]
      exact hs.handed
  flush _ hs := flushWriteBuf_holds (fun _ => hs) (fun _ _ => ⟨hs.codec, hs.handed⟩)
    fun _ _ _ => hs.handed
  accept _ _ hs := ⟨hs.codec, hs.handed⟩
  count _ _ hs := ⟨hs.codec, hs.handed⟩
  ctx _ _ hs := ⟨hs.codec, hs.handed⟩
  inbound _ _ hs := ⟨hs.codec, hs.handed⟩
  business _ _ hs := ⟨hs.codec, hs.handed⟩
  handler _ _ hs := ⟨hs.codec, hs.handed⟩

end StreamState

namespace StreamConnectionRuntime
open StreamState

variable {T : P.C → Prop} {Good : M → Prop} {word : M → Bytes} {item : M → P.Item}

/-- The messages `done` have been handed to the pipeline, and the buffer and `rest` hold the words
of `todo`. -/
structure Reading (T : P.C → Prop) (word : M → Bytes) (item : M → P.Item) (rest : Bytes)
    (done todo : List M) (rt : StreamConnectionRuntime P) : Prop where
  got : rt.io.Got T (done.map item)
  buffered : rt.readBuf ++ rest = todo.flatMap word

/-- The buffer holds less than the next word. -/
structure Waiting (T : P.C → Prop) (word : M → Bytes) (item : M → P.Item) (rest : Bytes)
    (done todo : List M) (rt : StreamConnectionRuntime P) : Prop
    extends Reading T word item rest done todo rt where
  pending : Pending rt.readBuf (todo.map word)

/-- The pipeline has been handed the first of these messages. -/
def Hears (items : List P.Item) (rt : StreamConnectionRuntime P) : Prop :=
  rt.io.history.handed <+: items

variable {rest : Bytes} {done todo : List M} {items : List P.Item}

theorem Reading.hears {rt : StreamConnectionRuntime P}
    (h : rt.Reading T word item rest done todo) (hitems : done.map item <+: items) :
    rt.Hears items := by
  rw [Hears, h.got.handed]
  exact hitems

/-- A call of the decoder takes the next word if the buffer holds it, and nothing otherwise. -/
theorem decode_reading (hcodec : P.DecodesAs T Good word item) (hgood : ∀ m ∈ todo, Good m)
    (hitems : done.map item <+: items) :
    Triple (Hears items) (Reading T word item rest done todo) decode
      (fun i rt => match i with
        | none => rt.Waiting T word item rest done todo
        | some i => ∃ m later, todo = m :: later ∧ i = item m ∧
            rt.Reading T word item rest done later)
      fun _ => Hears items := by
  refine Triple.mapError (await_triple fun rt hrt => ?_)
  have hget : decodePart.get rt = (rt.io.pipeline.codec, rt.readBuf) := rfl
  cases todo with
  | nil =>
    obtain ⟨hbuf, -⟩ := List.append_eq_nil_iff.1 hrt.buffered
    have hd : P.decode (decodePart.get rt) = .ok none (rt.io.pipeline.codec, []) := by
      rw [hget, hbuf]
      exact hcodec.idle hrt.got.codec
    rw [zoom_of_ok hd]
    exact ⟨hrt.hears hitems, ⟨⟨hrt.got.codec, hrt.got.handed⟩, hbuf ▸ hrt.buffered⟩, trivial⟩
  | cons m later =>
    obtain ⟨codec', hT, htakes⟩ := hcodec.takes (hgood m List.mem_cons_self) hrt.got.codec
    have hwords := hrt.buffered.trans List.flatMap_cons
    rcases part_or_whole hwords with ⟨r, hpart, hr⟩ | ⟨b', hbuf, hb'⟩
    · have hd : P.decode (decodePart.get rt) = .ok none (rt.io.pipeline.codec, rt.readBuf) :=
        htakes.incomplete hpart hr
      rw [zoom_of_ok hd]
      exact ⟨hrt.hears hitems, ⟨⟨hrt.got.codec, hrt.got.handed⟩, hrt.buffered⟩, r, hpart, hr⟩
    · have hd : P.decode (decodePart.get rt) = .ok (some (item m)) (codec', b') := by
        rw [hget, hbuf]
        exact htakes.taken b'
      rw [zoom_of_ok hd]
      exact ⟨hrt.hears hitems, m, later, rfl, rfl, ⟨hT, hrt.got.handed⟩, hb'⟩

/-- The next message, once it is off the buffer. -/
theorem process_reading (hcodec : P.DecodesAs T Good word item) {m : M}
    (hitems : (done ++ [m]).map item <+: items) :
    Triple (Hears items) (Reading T word item rest done todo)
      (onIo handlerFailure (StreamState.processInboundFlushable (item m)))
      (fun _ => Reading T word item rest (done ++ [m]) todo) fun _ => Hears items := by
  have hhand (s : StreamState P) (hs : s.Got T (done.map item)) :
      (s.hand (item m)).Got T ((done ++ [m]).map item) := by
    refine ⟨hs.codec, ?_⟩
    change s.history.handed ++ [item m] = _
    rw [hs.handed, List.map_append, List.map_singleton]
  let Later (rt : StreamConnectionRuntime P) : Prop := rt.readBuf ++ rest = todo.flatMap word
  have hsteady : Steady (Got T ((done ++ [m]).map item)) fun s =>
      s.history.handed = (done ++ [m]).map item := steady_got hcodec.encode
  have hprocess : Steadily _ _ Later
      (onIo handlerFailure (StreamState.processInboundFlushable (item m))) _ :=
    onIo_steadily (fun _ _ hrt => hrt) (hsteady.processInboundFlushable hhand)
  refine (hprocess.watch fun rt hrt => ?_).mono (fun rt hrt => ⟨hrt.got, hrt.buffered⟩)
    (fun _ rt hrt => ⟨hrt.1, hrt.2⟩) fun _ rt hrt => ?_
  · exact (congrArg (· <+: items) hrt).mpr hitems
  · exact (congrArg (· <+: items) hrt).mpr hitems

theorem countRead_reading (hitems : done.map item <+: items) (f : ReadStats → ReadStats) :
    Triple (Hears items) (Reading T word item rest done todo) (countRead f)
      (fun _ => Reading T word item rest done todo) fun _ => Hears items :=
  Triple.step fun _ hrt => ⟨hrt.hears hitems, hrt.got, hrt.buffered⟩

theorem map_done {done todo : List M} (h : (done ++ todo).map item = items) :
    done.map item <+: items := by
  rw [← h, List.map_append]
  exact List.prefix_append _ _

/-- The task has handed on the messages whose words it has read, unless it closes. -/
def Handing (T : P.C → Prop) (word : M → Bytes) (item : M → P.Item) (rest : Bytes) (msgs : List M)
    (closed : Option CloseReason) (rt : StreamConnectionRuntime P) : Prop :=
  rt.Hears (msgs.map item) ∧ (closed = none → ∃ done todo, done ++ todo = msgs ∧
    rt.Waiting T word item rest done todo)

variable {msgs : List M}

theorem decodeLoop_reading (hcodec : P.DecodesAs T Good word item) (fuel : Nat)
    {done todo : List M} (hgood : ∀ m ∈ todo, Good m) (hmsgs : done ++ todo = msgs) :
    Triple (Hears (msgs.map item)) (Reading T word item rest done todo) (decodeLoop fuel)
      (Handing T word item rest msgs) fun _ => Hears (msgs.map item) := by
  induction fuel generalizing done todo with
  | zero => exact Triple.fail fun rt hrt => hrt.hears (map_done (congrArg _ hmsgs))
  | succ fuel ih =>
    have hitems := map_done (congrArg (List.map item) hmsgs)
    refine Triple.bind (decode_reading hcodec hgood hitems) fun i => ?_
    cases i with
    | none => exact Triple.pure fun rt hrt => ⟨hrt.hears hitems, fun _ => ⟨done, todo, hmsgs, hrt⟩⟩
    | some i =>
      rintro rt ⟨m, later, rfl, rfl, hrt⟩
      have hnext : (done ++ [m]) ++ later = msgs := by rw [List.append_assoc]; exact hmsgs
      refine Triple.bind (countRead_reading hitems _) (fun _ => ?_) rt hrt
      have hmore := map_done (congrArg (List.map item) hnext)
      refine Triple.bind (process_reading hcodec hmore) fun _ => ?_
      refine Triple.look_keep fun rt _ => ?_
      split
      · exact Triple.pure fun rt hrt => ⟨hrt.hears hmore, nofun⟩
      · exact ih (fun m hm => hgood m (List.mem_cons_of_mem _ hm)) hnext

/-! ## A turn -/

/-- A read of the next bytes of the stream. -/
theorem read_reading (hcodec : P.DecodesAs T Good word item) (env : Surroundings) {bytes : Bytes}
    (hgood : ∀ m ∈ todo, Good m) (hmsgs : done ++ todo = msgs) :
    Triple (Hears (msgs.map item)) (Waiting T word item (bytes ++ rest) done todo)
      (select env (.read (.ok bytes))) (Handing T word item rest msgs)
      fun _ => Hears (msgs.map item) := by
  have hitems := map_done (congrArg (List.map item) hmsgs)
  apply Triple.bind (Q := fun _ => Reading T word item rest done todo)
  · refine Triple.step fun rt hrt => ⟨hrt.hears hitems, hrt.got, ?_⟩
    exact (List.append_assoc _ _ _).trans hrt.buffered
  intro _
  change Triple _ _ (handleRead env (.ok bytes.length)) _ _
  unfold handleRead
  dsimp only
  split
  next => exact Triple.pure fun rt hrt => ⟨hrt.hears hitems, nofun⟩
  next =>
    refine Triple.bind (countRead_reading hitems _) fun _ => ?_
    refine Triple.look_keep fun rt _ => ?_
    have hloop (fuel : Nat) : Triple (Hears (msgs.map item))
        (Reading T word item rest done todo) (decodeLoop fuel) (Handing T word item rest msgs)
        fun _ => Hears (msgs.map item) := decodeLoop_reading hcodec fuel hgood hmsgs
    split
    · refine Triple.bind (Q := fun _ => Reading T word item rest done todo) ?_ fun _ => hloop _
      exact Triple.fail fun rt hrt => hrt.hears hitems
    · exact hloop _

/-- A turn hands on the messages whose words it completes. -/
theorem select_reading (hcodec : P.DecodesAs T Good word item) (env : Surroundings)
    (event : Event P.Write) (hgood : ∀ m ∈ todo, Good m) (hmsgs : done ++ todo = msgs) :
    Triple (Hears (msgs.map item)) (Waiting T word item (event.bytes ++ rest) done todo)
      (select env event) (Handing T word item rest msgs) fun _ => Hears (msgs.map item) := by
  have hitems := map_done (congrArg (List.map item) hmsgs)
  have hkeep (closed : Option CloseReason) (rt : StreamConnectionRuntime P)
      (hrt : rt.Waiting T word item rest done todo) : Handing T word item rest msgs closed rt :=
    ⟨hrt.hears hitems, fun _ => ⟨done, todo, hmsgs, hrt⟩⟩
  cases event with
  | read read =>
    cases read with
    | ok bytes => exact read_reading hcodec env hgood hmsgs
    | error err => exact Triple.fail fun rt hrt => hrt.hears hitems
  | command cmd =>
    have hsteady : Steady (Got T (done.map item)) fun s => s.history.handed = done.map item :=
      steady_got hcodec.encode
    have hcommand := handleCommand_steadily hsteady
      (A := fun rt => rt.readBuf ++ rest = todo.flatMap word ∧ Pending rt.readBuf (todo.map word))
      (fun _ _ hrt => hrt) (fun _ _ _ hrt => hrt) env cmd
    refine (hcommand.watch fun rt hrt => ?_).mono ?_ ?_ ?_
    · exact (congrArg (· <+: msgs.map item) hrt).mpr hitems
    · exact fun rt hrt => ⟨hrt.got, hrt.buffered, hrt.pending⟩
    · exact fun closed rt hrt => hkeep closed rt ⟨⟨hrt.1, hrt.2.1⟩, hrt.2.2⟩
    · exact fun _ rt hrt => (congrArg (· <+: msgs.map item) hrt).mpr hitems
  | shutdown => exact Triple.pure fun rt hrt => hkeep _ rt hrt
  | idle =>
    refine Triple.look_keep fun rt _ => ?_
    split
    · exact Triple.pure fun rt hrt => hkeep _ rt hrt
    · exact Triple.pure fun rt hrt => hkeep _ rt hrt

end StreamConnectionRuntime

end RsNetty

import RsNetty.Verify.Udp.Channel

/-!
# Acknowledgements of UDP writes

The task answers a `write_to_and_flush` in the turn that takes its command off the queue. The other
calls return when the queue is dropped. A call has one answer, and `Ok` means that its datagram and
all those before it are on the socket.
-/

namespace RsNetty
open EStateM Traced DatagramStages

variable {P : DatagramStages}

def SocketEvent.done? {W : Type} (event : SocketEvent W) : Option Sender :=
  event.command?.bind (·.done?)

/-- What is answered about an event. -/
def SocketEvent.answers {W : Type} (event : SocketEvent W) (result : Except Error Unit) : Acks :=
  event.done?.toList.map (·, result)

/-! ## A turn -/

namespace DatagramSocketRuntime

/-- What a turn that ends early has answered. -/
def failureAnswers {W : Type} (event : SocketEvent W) : Exit Error → Acks
  | .err err => event.answers (.error (.pipeline ("write_to_and_flush failed: " ++ err.display)))
  | .panic | .hang => []

/-- A turn that stops the task has nothing to answer. -/
theorem select_acks (acks : Acks) (event : SocketEvent P.Write) :
    Triple (fun _ => True) (·.acks = acks) (select event)
      (fun stopped rt => rt.acks = acks ++ event.answers (.ok ()) ∧
        (stopped = true → event.done? = none))
      fun e rt => rt.acks = acks ++ failureAnswers event e := by
  have hkeep (rt : DatagramSocketRuntime P) (io : DatagramState P) (hrt : rt.acks = acks) :
      { rt with io }.acks = acks := hrt
  have hnothing (hevent : event.done? = none) (e : Exit Error) :
      acks = acks ++ failureAnswers event e := by
    cases e <;> simp [failureAnswers, SocketEvent.answers, hevent]
  have hnone (hevent : event.done? = none) (stopped : Bool) {rt : DatagramSocketRuntime P}
      (hrt : rt.acks = acks) : rt.acks = acks ++ event.answers (.ok ()) ∧
        (stopped = true → event.done? = none) := by
    simp [SocketEvent.answers, hevent, hrt]
  cases event with
  | recv read =>
    cases read with
    | error err => exact Triple.fail fun rt hrt => hrt.trans (hnothing rfl _)
    | ok read =>
      obtain ⟨datagram, peer⟩ := read
      exact (handleDatagram_frame hkeep datagram peer).mono (fun _ hrt => hrt)
        (fun stopped _ hrt => hnone rfl stopped hrt) fun e _ hrt => hrt.trans (hnothing rfl e)
  | shutdown => exact Triple.pure fun rt hrt => hnone rfl true hrt
  | command cmd =>
    cases cmd with
    | none => exact Triple.pure fun rt hrt => hnone rfl true hrt
    | some cmd =>
      cases cmd with
      | close => exact Triple.pure fun rt hrt => hnone rfl true hrt
      | writeTo peer msg =>
        refine Triple.bind (Q := fun _ rt => rt.acks = acks) ?_ fun _ =>
          Triple.pure fun _ hrt => hnone rfl false hrt
        exact (writeMessage_frame hkeep peer msg).mono (fun _ hrt => hrt) (fun _ _ hrt => hrt)
          fun e _ hrt => hrt.trans (hnothing rfl e)
      | writeToAndFlush peer msg done =>
        apply Triple.bind (Q := fun _ rt => rt.acks = acks)
        · exact Triple.step fun _ hrt => ⟨trivial, hrt⟩
        intro _
        refine report_triple (K := fun rt => rt.acks = acks ++ [(done, .ok ())])
          (writeMessage_frame hkeep peer msg) ?_ ?_ ?_ ?_ (Triple.pure fun _ hrt => ⟨hrt, nofun⟩)
        · exact fun rt hrt => ⟨trivial, congrArg (· ++ _) hrt⟩
        · exact fun e rt hrt => ⟨trivial, congrArg (· ++ _) hrt⟩
        · exact fun rt hrt => hrt.trans (List.append_nil acks).symm
        · exact fun rt hrt => hrt.trans (List.append_nil acks).symm

end DatagramSocketRuntime

/-! ## Runs -/

@[simp] theorem sendersOf_append {W : Type} (before after : List (DatagramCommand W)) :
    sendersOf (before ++ after) = sendersOf before ++ sendersOf after :=
  List.filterMap_append

theorem sendersOf_concat {W : Type} (events : List (SocketEvent W)) (event : SocketEvent W) :
    sendersOf (commandsOf (events ++ [event])) =
      sendersOf (commandsOf events) ++ event.done?.toList := by
  rw [commandsOf_concat, sendersOf_append, SocketEvent.done?]
  refine congrArg (_ ++ ·) ?_
  cases event.command? with
  | none => rfl
  | some command =>
    change List.filterMap _ [command] = command.done?.toList
    cases hdone : command.done? <;> simp [hdone]

theorem mem_answers {W : Type} {event : SocketEvent W} {result : Except Error Unit}
    {ack : Sender × Except Error Unit} (h : ack ∈ event.answers result) :
    event.done? = some ack.1 ∧ ack.2 = result := by
  obtain ⟨done, hdone, rfl⟩ := List.mem_map.1 h
  exact ⟨Option.mem_toList.1 hdone, rfl⟩

theorem map_answers {W : Type} (event : SocketEvent W) (result : Except Error Unit) :
    (event.answers result).map (·.1) = event.done?.toList := by
  simp [SocketEvent.answers, Function.comp_def]

namespace DatagramChannel

/-- The command with this sender has been taken off the queue, and all that the transducer gives up
to it has been sent. -/
def Sent (pipeline : DatagramPipeline P) (site : Site) (done : Sender) (s : DatagramChannel P) :
    Prop :=
  ∃ before event after, s.events = before ++ event :: after ∧ event.done? = some done ∧
    ((P.serve site).run pipeline (before ++ [event])).2.isSome = true ∧
    sentOf ((P.serve site).outputs pipeline (before ++ [event])) <+: s.rt.io.socket.sent

structure Answering (pipeline : DatagramPipeline P) (site : Site) (s : DatagramChannel P) :
    Prop where
  serving : s.Serving pipeline site
  numbered : s.phase.isOver = false → sendersOf s.queued = List.range s.next
  answered : s.phase.isOver = false → s.phase ≠ .hung →
    s.rt.acks.map (·.1) = sendersOf (commandsOf s.events)
  ok : s.phase.isOpen = true ∨ s.phase = .stopping (.ok ()) → ∀ ack ∈ s.rt.acks, ack.2 = .ok ()
  sound : ∀ done, (done, .ok ()) ∈ s.rt.acks → s.Sent pipeline site done

variable {pipeline : DatagramPipeline P} {site : Site} {s t : DatagramChannel P}
  {action : DatagramAction P.Write} {done : Sender}

theorem Sent.mono (h : s.Sent pipeline site done) (hevents : s.events <+: t.events)
    (hsent : s.rt.io.socket.sent <+: t.rt.io.socket.sent) : t.Sent pipeline site done := by
  obtain ⟨before, event, after, hs, hdone, hgoes, hpart⟩ := h
  obtain ⟨more, hmore⟩ := hevents
  refine ⟨before, event, after ++ more, ?_, hdone, hgoes, hpart.trans hsent⟩
  rw [← hmore, hs, List.append_assoc, List.cons_append]

theorem Answering.turn (h : s.Answering pipeline site) (hrunning : s.phase = .running)
    {event : SocketEvent P.Write} {left : List (DatagramCommand P.Write)}
    (hqueue : s.queue = event.command?.toList ++ left)
    (hsent : s.rt.io.socket.sent <+: (s.turn event left).rt.io.socket.sent) :
    (s.turn event left).Answering pipeline site := by
  obtain ⟨hrun, hat⟩ := h.serving.serves (hrunning ▸ rfl)
  have hgives := (DatagramSocketRuntime.select_gives event s.rt ⟨h.serving.located, hat⟩).2
  have hacks := (DatagramSocketRuntime.select_acks s.rt.acks event s.rt rfl).2
  have hanswered := h.answered (hrunning ▸ rfl) (hrunning ▸ nofun)
  have hok := h.ok (.inl (hrunning ▸ rfl))
  have hevents : s.events <+: (s.turn event left).events := ⟨[event], turn_events.symm⟩
  have hold (done : Sender) (hdone : (done, .ok ()) ∈ s.rt.acks) :
      (s.turn event left).Sent pipeline site done := (h.sound done hdone).mono hevents hsent
  have hnumbered : sendersOf (s.turn event left).queued = List.range (s.turn event left).next := by
    rw [turn_queued.1, turn_queued.2]
    exact h.numbered (hrunning ▸ rfl)
  have hserving := h.serving.turn hrunning hqueue
  have hrt : (s.turn event left).rt = _ := turn_rt
  cases hresult : (DatagramSocketRuntime.select event).result s.rt with
  | ok stopped rt =>
    rw [hresult] at hgives hacks hrt
    obtain ⟨hacks, hstopped⟩ := hacks
    obtain ⟨-, pipeline', hgiven, hgoes⟩ := hgives
    refine ⟨hserving, fun _ => hnumbered, fun _ _ => ?_, fun _ ack hack => ?_, fun done hdone => ?_⟩
    · rw [hrt, turn_events, sendersOf_concat, ← hanswered, ← map_answers event (.ok ())]
      exact (congrArg _ hacks).trans List.map_append
    · rw [hrt] at hack
      rcases List.mem_append.1 (hacks ▸ hack) with hack | hack
      · exact hok ack hack
      · exact (mem_answers hack).2
    · rw [hrt] at hdone
      rcases List.mem_append.1 (hacks ▸ hdone) with hdone | hdone
      · exact hold done hdone
      · have hevent := (mem_answers hdone).1
        have hnext := Transducer.run_concat_of_some (i := event) hrun
        refine ⟨s.events, event, [], turn_events, hevent, ?_, ?_⟩
        · cases stopped with
          | true => cases hevent.symm.trans (hstopped rfl)
          | false => rw [hnext, hgoes rfl]; rfl
        · rw [hrt, Transducer.outputs, hnext]
          exact hgiven.sent ▸ List.prefix_rfl
  | error e rt =>
    rw [hresult] at hacks hrt
    refine ⟨hserving, fun _ => hnumbered, fun hopen hnothung => ?_, fun hphase => ?_,
      fun done hdone => ?_⟩
    · simp only [DatagramChannel.turn, hresult] at hopen hnothung
      cases e with
      | err err =>
        rw [hrt, turn_events, sendersOf_concat, ← hanswered, ← map_answers]
        exact (congrArg _ hacks).trans List.map_append
      | panic => cases hopen
      | hang => exact (hnothung rfl).elim
    · simp only [DatagramChannel.turn, hresult] at hphase
      cases e <;> rcases hphase with hphase | hphase <;> cases hphase
    · rw [hrt] at hdone
      refine hold done ?_
      rcases List.mem_append.1 (hacks ▸ hdone) with hdone | hdone
      · exact hdone
      · cases e with
        | err err => cases (mem_answers hdone).2
        | panic => cases hdone
        | hang => cases hdone

theorem Answering.step (h : s.Answering pipeline site)
    (hstep : DatagramChannel.step s action = some t) : t.Answering pipeline site := by
  have hsent := h.serving.sent_mono hstep
  have hserving := h.serving.step hstep
  cases step_cases hstep with
  | sent hrt hphase hevents hqueued _ hqueue =>
    refine ⟨hserving, fun hopen => ?_, ?_, ?_, fun done hdone => ?_⟩
    · rw [hphase] at hopen
      rw [hqueued, (hqueue hopen).2, sendersOf_append, h.numbered hopen]
    · rw [hphase, hrt, hevents]
      exact h.answered
    · rw [hphase, hrt]
      exact h.ok
    · exact (h.sound done (hrt ▸ hdone)).mono (hevents ▸ List.prefix_rfl) hsent
  | turned hrunning hqueue => exact h.turn hrunning hqueue hsent
  | moved hrt hevents hqueued hnext hopen hstopping hover =>
    refine ⟨hserving, fun ht => ?_, fun ht hhung => ?_, ?_, fun done hdone => ?_⟩
    · rw [hqueued, hnext]
      exact h.numbered (SocketPhase.isOver_of_isOpen (hover ht).1)
    · rw [hrt, hevents]
      refine h.answered (SocketPhase.isOver_of_isOpen (hover ht).1) fun hs => ?_
      cases hs ▸ (hover ht).1
    · rintro (ht | ht)
      · rw [hrt]
        exact h.ok (.inl (hopen ht))
      · exact (hstopping ht).elim
    · exact (h.sound done (hrt ▸ hdone)).mono (hevents ▸ List.prefix_rfl) hsent

/-- Nothing happens to a task that is over. -/
theorem step_of_isOver (hover : s.phase.isOver = true)
    (hstep : DatagramChannel.step s action = some t) : t.rt = s.rt ∧ t.phase.isOver = true := by
  cases step_cases hstep with
  | sent hrt hphase => exact ⟨hrt, hphase ▸ hover⟩
  | turned hrunning => cases hrunning ▸ hover
  | moved hrt _ _ _ _ _ hopen =>
    refine ⟨hrt, eq_true_of_ne_false fun ht => ?_⟩
    cases hover.symm.trans (SocketPhase.isOver_of_isOpen (hopen ht).1)

theorem acks_mono (hstep : DatagramChannel.step s action = some t) :
    s.rt.acks <+: t.rt.acks := by
  cases step_cases hstep with
  | sent hrt => exact hrt ▸ List.prefix_rfl
  | moved hrt => exact hrt ▸ List.prefix_rfl
  | turned hrunning =>
    next left event _ _ =>
    have hacks := (DatagramSocketRuntime.select_acks s.rt.acks event s.rt rfl).2
    rw [turn_rt]
    cases hresult : (DatagramSocketRuntime.select event).result s.rt with
    | ok stopped rt =>
      rw [hresult] at hacks
      exact hacks.1 ▸ List.prefix_append _ _
    | error e rt =>
      rw [hresult] at hacks
      exact hacks ▸ List.prefix_append _ _

theorem holds_of_isOver (hover : s.phase.isOver = true) : s.holds done = false := by
  unfold holds
  cases hphase : s.phase <;> first | rfl | cases hphase ▸ hover

/-- A call that was made and has not been answered is held, unless the task is over. -/
theorem Answering.holds (h : s.Answering pipeline site) (hdone : done < s.next)
    (hopen : s.phase.isOver = false) (hlookup : s.rt.acks.lookup done = none) :
    s.holds done = true := by
  have hqueued : s.phase ≠ .hung → s.queue.any (·.done? == some done) = true := by
    intro hhung
    have hnumber : done ∈ sendersOf s.queued := by
      rw [h.numbered hopen]
      exact List.mem_range.2 hdone
    rw [h.serving.waiting hopen, sendersOf_append, ← h.answered hopen hhung] at hnumber
    rcases List.mem_append.1 hnumber with hacked | hwaits
    · obtain ⟨ack, hack, rfl⟩ := List.mem_map.1 hacked
      exact absurd rfl (bne_iff_ne.1 (List.lookup_eq_none_iff.1 hlookup ack hack))
    · obtain ⟨command, hcommand, hcommand'⟩ := List.mem_filterMap.1 hwaits
      exact List.any_eq_true.2 ⟨command, hcommand, beq_iff_eq.2 hcommand'⟩
  unfold DatagramChannel.holds
  cases hphase : s.phase with
  | hung => rfl
  | finished result => cases hphase ▸ hopen
  | panicked => cases hphase ▸ hopen
  | _ => exact hqueued (hphase ▸ nofun)

/-- An answer stays what it is. -/
theorem Answering.answer (h : s.Answering pipeline site) (hdone : done < s.next)
    (hstep : DatagramChannel.step s action = some t) {result : Except Error Unit}
    (hanswer : s.answer done = some result) : t.answer done = some result := by
  obtain ⟨more, hmore⟩ := acks_mono hstep
  rw [DatagramChannel.answer] at hanswer ⊢
  cases hlookup : s.rt.acks.lookup done with
  | some ack =>
    rw [hlookup] at hanswer
    rw [← hmore, List.lookup_append, hlookup]
    exact hanswer
  | none =>
    rw [hlookup] at hanswer
    -- It is the answer of a queue that was dropped.
    cases hover : s.phase.isOver with
    | false =>
      dsimp only at hanswer
      rw [if_pos (h.holds hdone hover hlookup)] at hanswer
      cases hanswer
    | true =>
      obtain ⟨hrt, hover'⟩ := step_of_isOver hover hstep
      rw [hrt, hlookup]
      dsimp only at hanswer ⊢
      rw [holds_of_isOver hover] at hanswer
      rw [holds_of_isOver hover']
      exact hanswer

theorem next_mono (hstep : DatagramChannel.step s action = some t) : s.next ≤ t.next := by
  cases step_cases hstep with
  | sent _ _ _ _ hnext => exact hnext
  | turned => exact turn_queued.2.ge
  | moved _ _ _ hnext => exact hnext.ge

theorem answering_new (id : UInt64) (localAddr : SocketAddr) (faults : List (Option String))
    (pipeline : DatagramPipeline P) (config : UdpSocketConfig) (outboundQueueSize : Nat)
    (hasShutdown : Bool) :
    (new id localAddr { faults } pipeline config outboundQueueSize hasShutdown).Answering pipeline
      ⟨id, localAddr, config⟩ where
  serving := serving_new ..
  numbered _ := rfl
  answered _ _ := rfl
  ok _ _ hack := (List.not_mem_nil hack).elim
  sound _ hdone := (List.not_mem_nil hdone).elim

/-- In every run a `write_to_and_flush` returns `Ok` only when all that the task had to send up to
it is on the socket. Each one whose command has been taken has done so unless the task has failed,
none waits for a task that is over, and what a call has returned stays its answer. -/
theorem run_writesAnswered (id : UInt64) (localAddr : SocketAddr) (faults : List (Option String))
    (pipeline : DatagramPipeline P) (config : UdpSocketConfig) (outboundQueueSize : Nat)
    (hasShutdown : Bool) (actions : List (DatagramAction P.Write)) (hrun : Machine.run
      DatagramChannel.step (new id localAddr { faults } pipeline config outboundQueueSize
        hasShutdown) actions = some t) :
    (∀ done, t.answer done = some (.ok ()) → t.Sent pipeline ⟨id, localAddr, config⟩ done) ∧
      (t.phase.isOpen = true ∨ t.phase = .stopping (.ok ()) →
        ∀ done ∈ sendersOf (commandsOf t.events), t.answer done = some (.ok ())) ∧
      (t.phase.isOver = true → ∀ done, t.answer done ≠ none) ∧
      ∀ more u, Machine.run DatagramChannel.step t more = some u → ∀ done < t.next, ∀ result,
        t.answer done = some result → u.answer done = some result := by
  have h : t.Answering pipeline ⟨id, localAddr, config⟩ := Machine.run_invariant _
    (answering_new id localAddr faults pipeline config outboundQueueSize hasShutdown)
    (fun _ _ _ _ hs hstep => hs.step hstep) hrun
  refine ⟨fun done hanswer => ?_, fun hphase done hdone => ?_, fun hover done => ?_, ?_⟩
  · rw [answer] at hanswer
    cases hlookup : t.rt.acks.lookup done with
    | some ack =>
      rw [hlookup] at hanswer
      cases hanswer
      obtain ⟨before, after, hacks, -⟩ := List.lookup_eq_some_iff.1 hlookup
      exact h.sound done (hacks ▸ List.mem_append_right _ (.head _))
    | none =>
      rw [hlookup] at hanswer
      dsimp only at hanswer
      split at hanswer <;> cases hanswer
  · have hopen : t.phase.isOver = false ∧ t.phase ≠ .hung := by
      rcases hphase with hphase | hphase
      · exact ⟨SocketPhase.isOver_of_isOpen hphase, fun hhung => by cases hhung ▸ hphase⟩
      · exact ⟨hphase ▸ rfl, fun hhung => by cases hhung ▸ hphase⟩
    rw [← h.answered hopen.1 hopen.2] at hdone
    rw [answer]
    cases hlookup : t.rt.acks.lookup done with
    | none =>
      obtain ⟨ack, hack, rfl⟩ := List.mem_map.1 hdone
      exact absurd rfl (bne_iff_ne.1 (List.lookup_eq_none_iff.1 hlookup ack hack))
    | some ack =>
      obtain ⟨before, after, hacks, -⟩ := List.lookup_eq_some_iff.1 hlookup
      exact congrArg some (h.ok hphase (done, ack) (hacks ▸ List.mem_append_right _ (.head _)))
  · rw [answer, holds_of_isOver hover]
    cases t.rt.acks.lookup done <;> nofun
  · intro more u hmore done hdone result hanswer
    exact (Machine.run_invariant (fun u => u.Answering pipeline ⟨id, localAddr, config⟩ ∧
      done < u.next ∧ u.answer done = some result) ⟨h, hdone, hanswer⟩
      (fun _ _ _ _ hs hstep => ⟨hs.1.step hstep, hs.2.1.trans_le (next_mono hstep),
        hs.1.answer hs.2.1 hstep hs.2.2⟩) hmore).2.2

/-- The first datagram is sent and the second one is not, which is the end of the task; the third
one stays in the queue. -/
theorem run_writesAnswered_broken :
    let faults := [none, some "broken"]
    let actions : List (DatagramAction Bytes) := [.start (.ok ()), .started (.ok ()),
      .writeToAndFlush ⟨[127, 0, 0, 1], 9001⟩ [7], .writeToAndFlush ⟨[127, 0, 0, 1], 9001⟩ [8],
      .recv, .writeToAndFlush ⟨[127, 0, 0, 1], 9001⟩ [9], .recv, .stopped (.ok ())]
    ∃ t, Machine.run (S := DatagramChannel BytesDatagramCodec.echo) DatagramChannel.step
        (new 1 ⟨[127, 0, 0, 1], 9000⟩ { faults } BytesDatagramCodec.echoPipeline {} 2 false)
        actions = some t ∧
      [t.answer 0, t.answer 1, t.answer 2] = [some (.ok ()),
        some (.error (.pipeline "write_to_and_flush failed: io error: broken")),
        some (.error .channelClosed)] ∧
      t.Sent BytesDatagramCodec.echoPipeline ⟨1, ⟨[127, 0, 0, 1], 9000⟩, {}⟩ 0 ∧
      ∀ done, t.answer done ≠ none := by
  intro faults actions
  have hend : (Machine.run (S := DatagramChannel BytesDatagramCodec.echo) DatagramChannel.step
      (new 1 ⟨[127, 0, 0, 1], 9000⟩ { faults } BytesDatagramCodec.echoPipeline {} 2 false)
      actions).map (fun t => (t.phase.isOver, [t.answer 0, t.answer 1, t.answer 2])) =
      some (true, [some (.ok ()),
        some (.error (.pipeline "write_to_and_flush failed: io error: broken")),
        some (.error .channelClosed)]) := by
    decide +kernel
  obtain ⟨t, hrun, ht⟩ := Option.map_eq_some_iff.1 hend
  obtain ⟨hover, hanswers⟩ := Prod.mk.inj ht
  obtain ⟨hsound, -, hnone, -⟩ := run_writesAnswered (P := BytesDatagramCodec.echo) 1 _ faults
    BytesDatagramCodec.echoPipeline {} 2 false actions hrun
  exact ⟨t, hrun, hanswers, hsound 0 (List.cons.inj hanswers).1, hnone hover⟩

end DatagramChannel

end RsNetty

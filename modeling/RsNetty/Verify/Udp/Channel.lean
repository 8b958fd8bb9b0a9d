import RsNetty.Codec.BytesDatagram
import RsNetty.Verify.Udp.Serving

/-!
# Steps of a socket task with its channel

A step queues a command, is a turn of the loop or goes from one phase to the next (`step_cases`). In
every run a task has done what the transducer does for the events that it has found (`run_served`).
-/

namespace RsNetty
open EStateM Traced DatagramState DatagramStages DatagramSocketRuntime

variable {P : DatagramStages}

/-- The command that an event takes off the queue. -/
def SocketEvent.command? {W : Type} : SocketEvent W → Option (DatagramCommand W)
  | .command cmd => cmd
  | .recv _ | .shutdown => none

/-- The commands that were taken off the queue. -/
def commandsOf {W : Type} (events : List (SocketEvent W)) : List (DatagramCommand W) :=
  events.filterMap (·.command?)

theorem commandsOf_concat {W : Type} (events : List (SocketEvent W)) (event : SocketEvent W) :
    commandsOf (events ++ [event]) = commandsOf events ++ event.command?.toList := by
  rw [commandsOf, List.filterMap_append]
  cases hcommand : event.command? <;> simp [hcommand, commandsOf]

/-- The senders that the commands carry. -/
def sendersOf {W : Type} (commands : List (DatagramCommand W)) : List Sender :=
  commands.filterMap (·.done?)

theorem SocketPhase.isOver_of_isOpen {phase : SocketPhase} (h : phase.isOpen = true) :
    phase.isOver = false := by
  cases phase <;> first | rfl | cases h

namespace DatagramChannel

/-- What a socket task may do in one step. -/
inductive StepCase (s : DatagramChannel P) (action : DatagramAction P.Write) :
    DatagramChannel P → Prop
  /-- The task is left alone, and commands may be put into its queue. -/
  | sent : t.rt = s.rt → t.phase = s.phase → t.events = s.events → t.queued = s.queued ++ more →
      s.next ≤ t.next →
      (s.phase.isOver = false → t.queue = s.queue ++ more ∧
        List.range t.next = List.range s.next ++ sendersOf more) → StepCase s action t
  | turned : s.phase = .running → s.queue = event.command?.toList ++ left →
      (∀ read, event = .recv read → action = .recvFrom read) →
      StepCase s action (s.turn event left)
  /-- The task goes on to another phase, not out of its loop. -/
  | moved : t.rt = s.rt → t.events = s.events → t.queued = s.queued → t.next = s.next →
      (t.phase.isOpen = true → s.phase.isOpen = true) → t.phase ≠ .stopping (.ok ()) →
      (t.phase.isOver = false → s.phase.isOpen = true ∧ t.queue = s.queue) → StepCase s action t

variable {s t : DatagramChannel P} {action : DatagramAction P.Write}

theorem send_cases {command : DatagramCommand P.Write} {next : Sender}
    (hnext : List.range next = List.range s.next ++ sendersOf [command])
    (h : { s with next }.send command = some t) : StepCase s action t := by
  have hle : s.next ≤ next := by
    have hlen := congrArg List.length hnext
    rw [List.length_append, List.length_range, List.length_range] at hlen
    exact hlen ▸ Nat.le_add_right _ _
  rw [send] at h
  split at h
  next hover =>
    cases h
    exact .sent rfl rfl rfl (List.append_nil _).symm hle fun hopen =>
      (Bool.false_ne_true (hopen.symm.trans hover)).elim
  next =>
    split at h
    next =>
      cases h
      exact .sent rfl rfl rfl rfl hle fun _ => ⟨rfl, hnext⟩
    next => cases h

theorem select_cases {event : SocketEvent P.Write} {left : List (DatagramCommand P.Write)}
    (hqueue : s.queue = event.command?.toList ++ left)
    (hread : ∀ read, event = .recv read → action = .recvFrom read)
    (h : s.select event left = some t) : StepCase s action t := by
  rw [select] at h
  split at h
  next hrunning =>
    cases h
    exact .turned hrunning hqueue hread
  next => cases h

/-- The task is over. -/
theorem over_cases (hrt : t.rt = s.rt) (hevents : t.events = s.events)
    (hqueued : t.queued = s.queued) (hnext : t.next = s.next) (hover : t.phase.isOver = true) :
    StepCase s action t := by
  refine .moved hrt hevents hqueued hnext (fun hopen => ?_) (fun hstopping => ?_) fun hopen => ?_
  · cases hover.symm.trans (SocketPhase.isOver_of_isOpen hopen)
  · rw [hstopping] at hover
    exact (Bool.false_ne_true hover).elim
  · exact (Bool.false_ne_true (hopen.symm.trans hover)).elim

theorem step_cases (h : step s action = some t) : StepCase s action t := by
  cases action with
  | writeTo peer msg => exact send_cases (List.append_nil _).symm h
  | writeToAndFlush peer msg => exact send_cases List.range_succ h
  | close => exact send_cases (List.append_nil _).symm h
  | start localAddr =>
    simp only [step] at h
    split at h
    next hphase =>
      cases h
      exact .moved rfl rfl rfl rfl (fun _ => hphase ▸ rfl) nofun fun _ => ⟨hphase ▸ rfl, rfl⟩
    next =>
      cases h
      exact over_cases rfl rfl rfl rfl rfl
    next => cases h
  | started result =>
    simp only [step] at h
    split at h
    next hphase =>
      cases h
      exact .moved rfl rfl rfl rfl (fun _ => hphase ▸ rfl) nofun fun _ => ⟨hphase ▸ rfl, rfl⟩
    next =>
      cases h
      exact over_cases rfl rfl rfl rfl rfl
    next => cases h
  | recv =>
    simp only [step] at h
    split at h
    next => cases h
    next command queue hqueue =>
      refine select_cases hqueue (fun _ hevent => ?_) h
      cases hevent
  | recvFrom read =>
    refine select_cases (List.nil_append _).symm (fun _ hevent => ?_) h
    cases hevent
    rfl
  | shutdown =>
    simp only [step] at h
    split at h
    next =>
      refine select_cases (List.nil_append _).symm (fun _ hevent => ?_) h
      cases hevent
    next => cases h
  | stopped result =>
    simp only [step] at h
    split at h
    next =>
      cases h
      exact over_cases rfl rfl rfl rfl rfl
    next =>
      cases h
      exact over_cases rfl rfl rfl rfl rfl
    next => cases h
  | panic =>
    simp only [step] at h
    split at h
    next =>
      cases h
      exact over_cases rfl rfl rfl rfl rfl
    next =>
      cases h
      exact over_cases rfl rfl rfl rfl rfl
    next => cases h

theorem turn_rt {event : SocketEvent P.Write} {left : List (DatagramCommand P.Write)} :
    (s.turn event left).rt = ((DatagramSocketRuntime.select event).result s.rt).final := by
  rw [turn]
  dsimp only
  split <;> next hresult => rw [hresult]; rfl

theorem turn_queued {event : SocketEvent P.Write} {left : List (DatagramCommand P.Write)} :
    (s.turn event left).queued = s.queued ∧ (s.turn event left).next = s.next := by
  rw [turn]
  dsimp only
  split <;> exact ⟨rfl, rfl⟩

theorem turn_events {event : SocketEvent P.Write} {left : List (DatagramCommand P.Write)} :
    (s.turn event left).events = s.events ++ [event] := by
  rw [turn]
  dsimp only
  split <;> rfl

/-! ## Runs -/

/-- What the task has handed to its stages. -/
def handed (s : DatagramChannel P) : List (SocketAddr × P.Item) := s.rt.io.delivered

/-- The task has done what the transducer does. -/
structure Serving (pipeline : DatagramPipeline P) (site : Site) (s : DatagramChannel P) : Prop where
  located : s.rt.site = site
  within : s.rt.io.Within [] ((P.serve site).outputs pipeline s.events)
  serves : s.phase.isOpen = true →
    (P.serve site).run pipeline s.events =
      ((P.serve site).outputs pipeline s.events, some s.rt.io.pipeline) ∧
    s.rt.io.At ((P.serve site).outputs pipeline s.events) s.rt.io.pipeline []
  stopped : s.phase = .stopping (.ok ()) →
    s.rt.io.At ((P.serve site).outputs pipeline s.events) s.rt.io.pipeline []
  heard : commandsOf s.events <+: s.queued
  waiting : s.phase.isOver = false → s.queued = commandsOf s.events ++ s.queue

variable {pipeline : DatagramPipeline P} {site : Site}

theorem serving_new (id : UInt64) (localAddr : SocketAddr) (faults : List (Option String))
    (pipeline : DatagramPipeline P) (config : UdpSocketConfig) (outboundQueueSize : Nat)
    (hasShutdown : Bool) :
    (new id localAddr { faults } pipeline config outboundQueueSize hasShutdown).Serving pipeline
      ⟨id, localAddr, config⟩ :=
  ⟨rfl, ⟨[], List.prefix_rfl, rfl, rfl⟩, fun _ => ⟨rfl, rfl, rfl, rfl, rfl⟩, nofun, List.prefix_rfl,
    fun _ => rfl⟩

theorem Serving.turn (h : s.Serving pipeline site) (hrunning : s.phase = .running)
    {event : SocketEvent P.Write} {left : List (DatagramCommand P.Write)}
    (hqueue : s.queue = event.command?.toList ++ left) :
    (s.turn event left).Serving pipeline site := by
  obtain ⟨hrun, hat⟩ := h.serves (hrunning ▸ rfl)
  have hnext := Transducer.run_concat_of_some (i := event) hrun
  have houtputs : (P.serve site).outputs pipeline (s.events ++ [event]) =
      (P.serve site).outputs pipeline s.events ++ (P.serve site s.rt.io.pipeline event).1 :=
    congrArg (·.1) hnext
  have hwaiting : s.queued = commandsOf (s.events ++ [event]) ++ left := by
    rw [h.waiting (hrunning ▸ rfl), hqueue, commandsOf_concat, List.append_assoc]
  have hheard : commandsOf (s.events ++ [event]) <+: s.queued := ⟨left, hwaiting.symm⟩
  have hselect := (select_gives event s.rt ⟨h.located, hat⟩).2
  -- What the turn did is added to the outputs of the events before it.
  have hdone {rt : DatagramSocketRuntime P} {pipeline' : DatagramPipeline P}
      (hrt : rt.io.At ((P.serve site).outputs pipeline s.events ++
        (P.serve site s.rt.io.pipeline event).1) pipeline' []) :
      rt.io.At ((P.serve site).outputs pipeline (s.events ++ [event])) rt.io.pipeline [] := by
    rw [houtputs]
    exact ⟨hrt.sent, hrt.handed, rfl, hrt.buf⟩
  have hpart {rt : DatagramSocketRuntime P} (hrt : rt.io.Within
        ([] ++ (P.serve site).outputs pipeline s.events) (P.serve site s.rt.io.pipeline event).1) :
      rt.io.Within [] ((P.serve site).outputs pipeline (s.events ++ [event])) := by
    rw [houtputs]
    exact hrt.behind
  have hall {rt : DatagramSocketRuntime P} (hrt : rt.io.At
        ((P.serve site).outputs pipeline (s.events ++ [event])) rt.io.pipeline []) :
      rt.io.Within [] ((P.serve site).outputs pipeline (s.events ++ [event])) :=
    ⟨_, List.prefix_rfl, hrt.sent, hrt.handed⟩
  rw [DatagramChannel.turn]
  cases hresult : (DatagramSocketRuntime.select event).result s.rt with
  | ok stopped rt =>
    rw [hresult] at hselect
    obtain ⟨hsite, pipeline', hrt, hgoes⟩ := hselect
    cases stopped with
    | false =>
      dsimp only
      refine ⟨hsite, hall (hdone hrt), fun _ => ⟨?_, hdone hrt⟩, fun hstopping => ?_, hheard,
        fun _ => hwaiting⟩
      · change (P.serve site).run pipeline (s.events ++ [event]) = (_, some rt.io.pipeline)
        rw [hnext, hgoes rfl, ← hrt.pipeline]
        exact Prod.ext houtputs.symm rfl
      · cases hrunning.symm.trans hstopping
    | true =>
      dsimp only
      exact ⟨hsite, hall (hdone hrt), nofun, fun _ => hdone hrt, hheard, fun _ => hwaiting⟩
  | error e rt =>
    rw [hresult] at hselect
    obtain ⟨hsite, hrt⟩ := hselect
    cases e with
    | err e =>
      dsimp only
      exact ⟨hsite, hpart hrt, nofun, nofun, hheard, fun _ => hwaiting⟩
    | panic =>
      dsimp only
      exact ⟨hsite, hpart hrt, nofun, nofun, hheard, nofun⟩
    | hang =>
      dsimp only
      exact ⟨hsite, hpart hrt, nofun, nofun, hheard, fun _ => hwaiting⟩

theorem Serving.step (h : s.Serving pipeline site)
    (hstep : DatagramChannel.step s action = some t) : t.Serving pipeline site := by
  cases step_cases hstep with
  | sent hrt hphase hevents hqueued _ hqueue =>
    refine ⟨hrt ▸ h.located, hrt ▸ hevents ▸ h.within, ?_, ?_, ?_, ?_⟩
    · rw [hrt, hphase, hevents]
      exact h.serves
    · rw [hrt, hphase, hevents]
      exact h.stopped
    · rw [hevents, hqueued]
      exact h.heard.trans (List.prefix_append _ _)
    · rw [hphase, hevents]
      exact fun hopen => by rw [hqueued, (hqueue hopen).1, h.waiting hopen, List.append_assoc]
  | turned hrunning hqueue _ => exact h.turn hrunning hqueue
  | moved hrt hevents hqueued _ hopen hstopping hover =>
    refine ⟨hrt ▸ h.located, hrt ▸ hevents ▸ h.within, ?_, fun h => (hstopping h).elim, ?_, ?_⟩
    · rw [hrt, hevents]
      exact fun ht => h.serves (hopen ht)
    · rw [hevents, hqueued]
      exact h.heard
    · rw [hevents, hqueued]
      intro ht
      obtain ⟨hs, hqueue⟩ := hover ht
      rw [hqueue, h.waiting (SocketPhase.isOver_of_isOpen hs)]

theorem spawned_serving (id : UInt64) (localAddr : SocketAddr) (faults : List (Option String))
    (pipeline : DatagramPipeline P) (config : UdpSocketConfig) (outboundQueueSize : Nat)
    (hasShutdown : Bool) {actions : List (DatagramAction P.Write)} (hrun : Machine.run
      DatagramChannel.step (new id localAddr { faults } pipeline config outboundQueueSize
        hasShutdown) actions = some t) : t.Serving pipeline ⟨id, localAddr, config⟩ :=
  Machine.run_invariant _
    (serving_new id localAddr faults pipeline config outboundQueueSize hasShutdown)
    (fun _ _ _ _ hs hstep => hs.step hstep) hrun

/-- What has been sent is not taken back. -/
theorem Serving.sent_mono (h : s.Serving pipeline site)
    (hstep : DatagramChannel.step s action = some t) :
    s.rt.io.socket.sent <+: t.rt.io.socket.sent := by
  cases step_cases hstep with
  | sent hrt => exact hrt ▸ List.prefix_rfl
  | moved hrt => exact hrt ▸ List.prefix_rfl
  | turned hrunning =>
    next left event _ _ =>
    obtain ⟨-, hat⟩ := h.serves (hrunning ▸ rfl)
    have hselect := (select_gives event s.rt ⟨h.located, hat⟩).2
    rw [turn_rt, hat.sent]
    cases hresult : (DatagramSocketRuntime.select event).result s.rt with
    | ok stopped rt =>
      rw [hresult] at hselect
      obtain ⟨-, pipeline', hrt, -⟩ := hselect
      exact ⟨sentOf _, (hrt.sent.trans (List.filterMap_append ..)).symm⟩
    | error e rt =>
      rw [hresult] at hselect
      obtain ⟨-, part, -, hsent, -⟩ := hselect
      exact ⟨sentOf part, (hsent.trans (List.filterMap_append ..)).symm⟩

theorem step_events (h : DatagramChannel.step s action = some t) :
    t.events = s.events ∨ ∃ event, t.events = s.events ++ [event] ∧
      ∀ read, event = .recv read → action = .recvFrom read := by
  cases step_cases h with
  | sent _ _ hevents => exact .inl hevents
  | moved _ hevents => exact .inl hevents
  | turned _ _ hread => exact .inr ⟨_, turn_events, hread⟩

/-- In every run the task takes the commands in the order in which they were put into its channel,
and sends and hands on what the transducer gives for the events in the order in which it found them:
all of it as long as it has not failed, and otherwise a first part. -/
theorem run_served (id : UInt64) (localAddr : SocketAddr) (faults : List (Option String))
    (pipeline : DatagramPipeline P) (config : UdpSocketConfig) (outboundQueueSize : Nat)
    (hasShutdown : Bool) (actions : List (DatagramAction P.Write)) (hrun : Machine.run
      DatagramChannel.step (new id localAddr { faults } pipeline config outboundQueueSize
        hasShutdown) actions = some t) :
    let outs := (P.serve ⟨id, localAddr, config⟩).outputs pipeline t.events
    (∃ part, part <+: outs ∧ t.rt.io.socket.sent = sentOf part ∧ t.handed = handedOf part) ∧
      (t.phase.isOpen = true ∨ t.phase = .stopping (.ok ()) →
        t.rt.io.socket.sent = sentOf outs ∧ t.handed = handedOf outs) ∧
      (t.phase.isOpen = true → (P.serve ⟨id, localAddr, config⟩).run pipeline t.events =
        (outs, some t.rt.io.pipeline)) ∧
      commandsOf t.events <+: t.queued ∧
      (t.phase.isOver = false → t.queued = commandsOf t.events ++ t.queue) := by
  intro outs
  have h := spawned_serving id localAddr faults pipeline config outboundQueueSize hasShutdown hrun
  refine ⟨h.within, ?_, fun hopen => (h.serves hopen).1, h.heard, h.waiting⟩
  rintro (hopen | hstopped)
  · exact ⟨(h.serves hopen).2.sent, (h.serves hopen).2.handed⟩
  · exact ⟨(h.stopped hstopped).sent, (h.stopped hstopped).handed⟩

/-- A handler that answers twice, where the first answer is flushed and the socket fails at the last
datagram of all. -/
theorem run_served_twice :
    let P : DatagramStages := { BytesDatagramCodec.echo with
      read := fun info handler (msg : Bytes) => .reply info msg (.flush fun _ =>
        .reply info (msg ++ msg) (.ready (.ok ()) handler)) }
    let pipeline : DatagramPipeline P := ⟨(), (), (), (), ()⟩
    let faults := [none, none, none, some "broken"]
    ∃ t, Machine.run DatagramChannel.step
        (new 1 ⟨[127, 0, 0, 1], 9000⟩ { faults } pipeline {} 2 true)
        [.start (.ok ()), .writeTo ⟨[127, 0, 0, 1], 9002⟩ ([7] : Bytes), .started (.ok ()),
          .recvFrom (.ok ([8], ⟨[127, 0, 0, 1], 9001⟩)), .recv,
          .recvFrom (.ok ([9], ⟨[127, 0, 0, 1], 9002⟩))] = some t ∧
      (∃ part, part <+: (P.serve ⟨1, ⟨[127, 0, 0, 1], 9000⟩, {}⟩).outputs pipeline t.events ∧
        t.rt.io.socket.sent = sentOf part ∧ t.handed = handedOf part) ∧
      t.rt.io.socket.sent = [(⟨[127, 0, 0, 1], 9001⟩, [8]), (⟨[127, 0, 0, 1], 9001⟩, [8, 8]),
        (⟨[127, 0, 0, 1], 9002⟩, [7])] := by
  intro P pipeline faults
  have hend : (Machine.run DatagramChannel.step
      (new 1 ⟨[127, 0, 0, 1], 9000⟩ { faults } pipeline {} 2 true)
      [.start (.ok ()), .writeTo ⟨[127, 0, 0, 1], 9002⟩ ([7] : Bytes), .started (.ok ()),
        .recvFrom (.ok ([8], ⟨[127, 0, 0, 1], 9001⟩)), .recv,
        .recvFrom (.ok ([9], ⟨[127, 0, 0, 1], 9002⟩))]).map
          (fun t => (t.rt.io.socket.sent : List (SocketAddr × Bytes))) =
      some [(⟨[127, 0, 0, 1], 9001⟩, [8]), (⟨[127, 0, 0, 1], 9001⟩, [8, 8]),
        (⟨[127, 0, 0, 1], 9002⟩, [7])] := by
    decide +kernel
  obtain ⟨t, hrun, hsent⟩ := Option.map_eq_some_iff.1 hend
  exact ⟨t, hrun, (run_served 1 _ faults pipeline {} 2 true _ hrun).1, hsent⟩

end DatagramChannel

end RsNetty

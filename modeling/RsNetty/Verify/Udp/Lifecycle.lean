import RsNetty.Verify.Udp.Channel
import RsNetty.Verify.Udp.Isolation

/-!
# The life of a UDP socket

`SocketLifecycle` says what a socket task may have done: its hooks around its loop, and between them
the loop (`DatagramSocketRuntime.run`) on the events that the task has found. `run_socketLifecycle`:
in every run the task has done no more and no less.
-/

namespace RsNetty
open EStateM Traced

variable {P : DatagramStages}

/-- What is seen of the hooks up to the loop. -/
def SocketPhase.startedLife : List SocketLife := [.called .started, .returned .started (.ok ())]

open SocketPhase

/-- The life of a task that started from `rt`: its phase, what was seen of its hooks, the events it
has found, and its state. -/
inductive SocketLifecycle (rt : DatagramSocketRuntime P) :
    SocketPhase → List SocketLife → List (SocketEvent P.Write) → DatagramSocketRuntime P → Prop
  | spawned : SocketLifecycle rt .spawned [] [] rt
  /-- The socket has no address, and no hook is called. -/
  | unaddressed (err : String) : SocketLifecycle rt (.finished (.error (.io err))) [] [] rt
  | starting : SocketLifecycle rt .starting [.called .started] [] rt
  | refused (err : Error) : SocketLifecycle rt (.finished (.error err))
      [.called .started, .returned .started (.error err)] [] rt
  | running : (DatagramSocketRuntime.run events).result rt = .ok false rt' →
      SocketLifecycle rt .running startedLife events rt'
  | hung : (DatagramSocketRuntime.run events).result rt = .error .hang rt' →
      SocketLifecycle rt .hung startedLife events rt'
  | left : (DatagramSocketRuntime.run events).result rt = .ok true rt' →
      SocketLifecycle rt (.stopping (.ok ())) (startedLife ++ [.called .stopped]) events rt'
  | failed : (DatagramSocketRuntime.run events).result rt = .error (.err err) rt' →
      SocketLifecycle rt (.stopping (.error err)) (startedLife ++ [.called .stopped]) events rt'
  | stopped (result : Except Error Unit) :
      (DatagramSocketRuntime.run events).result rt = .ok true rt' →
      SocketLifecycle rt (.finished result)
        (startedLife ++ [.called .stopped, .returned .stopped result]) events rt'
  /-- The error of the loop is what the task returns. -/
  | failedStopped (result : Except Error Unit) :
      (DatagramSocketRuntime.run events).result rt = .error (.err err) rt' →
      SocketLifecycle rt (.finished (.error err))
        (startedLife ++ [.called .stopped, .returned .stopped result]) events rt'
  | panickedStarting : SocketLifecycle rt .panicked [.called .started] [] rt
  | panickedRunning : (DatagramSocketRuntime.run events).result rt = .error .panic rt' →
      SocketLifecycle rt .panicked startedLife events rt'
  | panickedStopping : (DatagramSocketRuntime.run events).result rt = .ok true rt' ∨
        (∃ err, (DatagramSocketRuntime.run events).result rt = .error (.err err) rt') →
      SocketLifecycle rt .panicked (startedLife ++ [.called .stopped]) events rt'

namespace SocketLifecycle

variable {rt rt' : DatagramSocketRuntime P} {life : List SocketLife}
  {events : List (SocketEvent P.Write)} {err : Error}

theorem of_spawned (h : SocketLifecycle rt .spawned life events rt') :
    life = [] ∧ events = [] ∧ rt' = rt := by
  cases h
  exact ⟨rfl, rfl, rfl⟩

theorem of_starting (h : SocketLifecycle rt .starting life events rt') :
    life = [.called .started] ∧ events = [] ∧ rt' = rt := by
  cases h
  exact ⟨rfl, rfl, rfl⟩

theorem of_running (h : SocketLifecycle rt .running life events rt') : life = startedLife ∧
    (DatagramSocketRuntime.run events).result rt = .ok false rt' := by
  cases h with
  | running hrun => exact ⟨rfl, hrun⟩

theorem of_left (h : SocketLifecycle rt (.stopping (.ok ())) life events rt') :
    life = startedLife ++ [.called .stopped] ∧
      (DatagramSocketRuntime.run events).result rt = .ok true rt' := by
  cases h with
  | left hrun => exact ⟨rfl, hrun⟩

theorem of_failed (h : SocketLifecycle rt (.stopping (.error err)) life events rt') :
    life = startedLife ++ [.called .stopped] ∧
      (DatagramSocketRuntime.run events).result rt = .error (.err err) rt' := by
  cases h with
  | failed hrun => exact ⟨rfl, hrun⟩

end SocketLifecycle

namespace DatagramChannel

/-- The task is where its life has led it. -/
def Lives (rt : DatagramSocketRuntime P) (s : DatagramChannel P) : Prop :=
  SocketLifecycle rt s.phase s.life s.events s.rt

variable {rt : DatagramSocketRuntime P} {s t : DatagramChannel P}
  {action : DatagramAction P.Write}

theorem Lives.in_phase {phase : SocketPhase} (h : s.Lives rt) (hphase : s.phase = phase) :
    SocketLifecycle rt phase s.life s.events s.rt := by
  rw [← hphase]
  exact h

theorem Lives.send (h : s.Lives rt) {command : DatagramCommand P.Write} {next : Sender}
    (hsend : { s with next }.send command = some t) : t.Lives rt := by
  rw [DatagramChannel.send] at hsend
  split at hsend
  next =>
    cases hsend
    exact h
  next =>
    split at hsend
    next =>
      cases hsend
      exact h
    next => cases hsend

theorem Lives.select (h : s.Lives rt) {event : SocketEvent P.Write}
    {left : List (DatagramCommand P.Write)} (hselect : s.select event left = some t) :
    t.Lives rt := by
  rw [DatagramChannel.select] at hselect
  split at hselect
  next hrunning =>
    cases hselect
    obtain ⟨hlife, hrun⟩ := (h.in_phase hrunning).of_running
    have hnext : (DatagramSocketRuntime.run (s.events ++ [event])).result rt =
        (DatagramSocketRuntime.select event).result s.rt := by
      rw [DatagramSocketRuntime.run_append, hrun]
      exact DatagramSocketRuntime.run_single event
    unfold Lives turn
    cases hresult : (DatagramSocketRuntime.select event).result s.rt with
    | ok stopped rt' =>
      rw [hresult] at hnext
      cases stopped with
      | false =>
        dsimp only
        rw [hrunning, hlife]
        exact .running hnext
      | true => exact hlife ▸ .left hnext
    | error e rt' =>
      rw [hresult] at hnext
      cases e with
      | err err => exact hlife ▸ .failed hnext
      | panic => exact (List.append_nil s.life).symm ▸ hlife ▸ .panickedRunning hnext
      | hang => exact (List.append_nil s.life).symm ▸ hlife ▸ .hung hnext
  next => cases hselect

theorem Lives.step (h : s.Lives rt) (hstep : DatagramChannel.step s action = some t) :
    t.Lives rt := by
  cases action with
  | writeTo peer msg => exact h.send hstep
  | writeToAndFlush peer msg => exact h.send hstep
  | close => exact h.send hstep
  | start localAddr =>
    simp only [DatagramChannel.step] at hstep
    split at hstep
    next hphase =>
      cases hstep
      obtain ⟨hlife, hevents, hrt⟩ := (h.in_phase hphase).of_spawned
      unfold Lives goto
      rw [hlife, hevents, hrt]
      exact .starting
    next err hphase =>
      cases hstep
      obtain ⟨hlife, hevents, hrt⟩ := (h.in_phase hphase).of_spawned
      unfold Lives finish goto
      rw [hlife, hevents, hrt]
      exact .unaddressed err
    next => cases hstep
  | started result =>
    simp only [DatagramChannel.step] at hstep
    split at hstep
    next hphase =>
      cases hstep
      obtain ⟨hlife, hevents, hrt⟩ := (h.in_phase hphase).of_starting
      unfold Lives goto
      rw [hlife, hevents, hrt]
      exact .running rfl
    next err hphase =>
      cases hstep
      obtain ⟨hlife, hevents, hrt⟩ := (h.in_phase hphase).of_starting
      unfold Lives finish goto
      rw [hlife, hevents, hrt]
      exact .refused err
    next => cases hstep
  | recv =>
    simp only [DatagramChannel.step] at hstep
    split at hstep
    next => cases hstep
    next => exact h.select hstep
  | recvFrom read => exact h.select hstep
  | shutdown =>
    simp only [DatagramChannel.step] at hstep
    split at hstep
    next => exact h.select hstep
    next => cases hstep
  | stopped result =>
    simp only [DatagramChannel.step] at hstep
    split at hstep
    next hphase =>
      cases hstep
      obtain ⟨hlife, hrun⟩ := (h.in_phase hphase).of_left
      unfold Lives finish goto
      rw [hlife]
      exact .stopped result hrun
    next err hphase =>
      cases hstep
      obtain ⟨hlife, hrun⟩ := (h.in_phase hphase).of_failed
      unfold Lives finish goto
      rw [hlife]
      exact .failedStopped result hrun
    next => cases hstep
  | panic =>
    simp only [DatagramChannel.step] at hstep
    split at hstep
    next hphase =>
      cases hstep
      obtain ⟨hlife, hevents, hrt⟩ := (h.in_phase hphase).of_starting
      unfold Lives finish goto
      rw [hlife, hevents, hrt]
      exact .panickedStarting
    next result hphase =>
      cases hstep
      unfold Lives finish goto
      rw [List.append_nil]
      cases result with
      | ok _ =>
        obtain ⟨hlife, hrun⟩ := (h.in_phase hphase).of_left
        rw [hlife]
        exact .panickedStopping (.inl hrun)
      | error err =>
        obtain ⟨hlife, hrun⟩ := (h.in_phase hphase).of_failed
        rw [hlife]
        exact .panickedStopping (.inr ⟨err, hrun⟩)
    next => cases hstep

/-- In every run a socket task has called its hooks around its loop, each once and in their order,
and between them it has done what the loop does on the events that it has found: nothing before the
first hook has returned `Ok`, and nothing after the loop is over. -/
theorem run_socketLifecycle (id : UInt64) (localAddr : SocketAddr) (socket : UdpSocket)
    (pipeline : DatagramPipeline P) (config : UdpSocketConfig) (outboundQueueSize : Nat)
    (hasShutdown : Bool) (actions : List (DatagramAction P.Write))
    (hrun : Machine.run DatagramChannel.step
      (new id localAddr socket pipeline config outboundQueueSize hasShutdown) actions = some t) :
    SocketLifecycle (.new id localAddr socket pipeline config) t.phase t.life t.events t.rt := by
  have hnew : (new id localAddr socket pipeline config outboundQueueSize hasShutdown).Lives
      (.new id localAddr socket pipeline config) := .spawned
  exact Machine.run_invariant (Lives _) hnew (fun _ _ _ _ hs hstep => hs.step hstep) hrun

/-- The datagram cannot be sent, and the last hook fails as well. -/
theorem run_socketLifecycle_broken :
    let socket : UdpSocket := { faults := [none, some "broken"] }
    let actions : List (DatagramAction Bytes) := [.start (.ok ()), .started (.ok ()),
      .recvFrom (.ok ([8], ⟨[127, 0, 0, 1], 9001⟩)), .recvFrom (.ok ([9], ⟨[127, 0, 0, 1], 9001⟩)),
      .stopped (.error .closed)]
    ∃ t, Machine.run (S := DatagramChannel BytesDatagramCodec.echo) DatagramChannel.step
        (new 1 ⟨[127, 0, 0, 1], 9000⟩ socket BytesDatagramCodec.echoPipeline {} 1 false)
        actions = some t ∧
      SocketLifecycle (.new 1 ⟨[127, 0, 0, 1], 9000⟩ socket BytesDatagramCodec.echoPipeline {})
        (.finished (.error (.io "broken"))) (startedLife ++
          [.called .stopped, .returned .stopped (.error .closed)]) t.events t.rt := by
  intro socket actions
  have hend : (Machine.run (S := DatagramChannel BytesDatagramCodec.echo) DatagramChannel.step
      (new 1 ⟨[127, 0, 0, 1], 9000⟩ socket BytesDatagramCodec.echoPipeline {} 1 false)
      actions).map (fun t => (t.phase, t.life)) = some (.finished (.error (.io "broken")),
        startedLife ++ [.called .stopped, .returned .stopped (.error .closed)]) := by
    decide +kernel
  obtain ⟨t, hrun, ht⟩ := Option.map_eq_some_iff.1 hend
  obtain ⟨hphase, hlife⟩ := Prod.mk.inj ht
  refine ⟨t, hrun, ?_⟩
  rw [← hphase, ← hlife]
  exact run_socketLifecycle (P := BytesDatagramCodec.echo) 1 _ socket
    BytesDatagramCodec.echoPipeline {} 1 false actions hrun

end DatagramChannel

end RsNetty
